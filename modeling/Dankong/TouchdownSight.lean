import Dankong.BlindDescent

/-!
# The tag was seen before touchdown

`PlandController` lands or disarms from its servoing branch only. A run is followed
here with what every control step saw of the tag, so that a touchdown can be traced
back to a fresh observation.
-/

namespace Dankong.Pland

open History Runs

/-- What an observer of one control step sees. -/
structure ControlRecord where
  /-- Configuration the step reads. -/
  cfg : PlandConfig ℝ
  /-- Height above the platform. -/
  height : ℝ
  /-- Whether the observation was fresh, if the step looked at it. -/
  look : Option Bool
  /-- What the step commands. -/
  cmds : List PlandCmd

/-- Recorded events of a controller. -/
inductive SightEvent
  /-- A valid observation was delivered. -/
  | sighted (result : DetectorResult)
  /-- A control step was made. -/
  | controlled (r : ControlRecord)

/-- What an event shows of the observation. -/
def SightEvent.look : SightEvent → Option Bool
  | .sighted _ => none
  | .controlled r => r.look

/-- What the control steps saw, those that looked. -/
def looks (history : List SightEvent) : List Bool := history.filterMap SightEvent.look

/-- One event more. -/
theorem looks_cons (e : SightEvent) (history : List SightEvent) :
    looks (e::history)=e.look.toList++looks history := by
  rw [looks,looks,List.filterMap_cons]
  cases e.look <;> rfl

/-- The observation is valid and at most a second old. -/
def FreshObs (env : PlandEnv) (s : PlandState) : Prop :=
  s.latestObs.isValid=true ∧ s.latestObs.stamp≠0 ∧ env.now-s.latestObs.stamp≤1

noncomputable section

open Classical in
/-- Whether a step that looks finds a fresh observation; one that flies towards an
injected target does not look. -/
def lookOf (cfg : PlandConfig ℝ) (env : PlandEnv) (s : PlandState) : Option Bool :=
  match (stepBranch cfg env s).1 with
  | .approach _ => none
  | _ => some (decide (FreshObs env s))

/-- The event an input leaves behind. -/
def sightEvent (s : PlandState) : PlandInput → Option SightEvent
  | .observe result => if result.isValid=true then some (.sighted result) else none
  | .step cfg env dt =>
    if s.running=true then
      some (.controlled ⟨cfg,currentZ cfg env,lookOf cfg env s,(onStep cfg env dt s).2⟩)
    else none
  | _ => none

/-- A run with what was seen in it. -/
def sightedRun (stamp : ℝ) (pureVision : Bool) (inputs : List PlandInput) :
    PlandState×List SightEvent :=
  runFrom (recordStep advance sightEvent) (constructed stamp pureVision,[]) inputs

end

/-- The command ends the flight. -/
def EndsFlight (cmd : PlandCmd) : Prop := cmd=.land ∨ cmd=.disarm

/-- What a touchdown presupposes. -/
structure Justified (stamp : ℝ) (r : ControlRecord) (earlier : List SightEvent) : Prop where
  /-- The vehicle is below the touchdown height. -/
  low : r.height<r.cfg.plandLandAlt
  /-- The one command is the configured one. -/
  cmds : r.cmds=[if r.cfg.plandUseDisarm=true then .disarm else .land]
  /-- A valid observation was delivered, unless there was a stamp to begin with. -/
  sighted : stamp≠0 ∨ ∃ result,.sighted result∈earlier
  /-- Of the latest 21 looks one found the observation fresh. -/
  fresh : 21 ≤ (looks (.controlled r::earlier)).length →
    true∈(looks (.controlled r::earlier)).take 21

/-- Every touchdown is justified by what happened before. -/
def TouchdownJustified (stamp : ℝ) (e : SightEvent) (earlier : List SightEvent) : Prop :=
  ∀ r,e=.controlled r → (∃ cmd∈r.cmds,EndsFlight cmd) → Justified stamp r earlier

section

variable {cfg : PlandConfig ℝ} {env : PlandEnv} {dt : ℝ} {s : PlandState}

/-- The vertical control ends the flight below the touchdown height. -/
theorem executeZStateMachine_none {z xyError yawErrorDeg droneEnuZ : ℝ}
    {out : Option (ZControlCmd ℝ)×PlandState×List PlandCmd}
    (hout : executeZStateMachine cfg z xyError yawErrorDeg droneEnuZ s=out) (hnone : out.1=none) :
    z<cfg.plandLandAlt ∧ out.2.2=[if cfg.plandUseDisarm=true then .disarm else .land] := by
  have hland := calculateSharedZDescent_shouldLand cfg z xyError s.isBlindDrop yawErrorDeg droneEnuZ
  rw [executeZStateMachine] at hout
  split at hout
  · rename_i h
    have hz := hland.mp h
    subst hout
    refine ⟨hz,?_⟩
    rw [calculateSharedZDescent,if_pos hz]
  · subst hout
    cases hnone

/-- A servoing step that ends the flight. -/
theorem servo_ends_flight (dt : ℝ) (s : PlandState) {cmds : List PlandCmd}
    (hcmds : cmds=(stepGlobalEnu cfg env dt s).2 ∨ cmds=(stepPureVisual cfg env s).2)
    (hends : ∃ cmd∈cmds,EndsFlight cmd) :
    currentZ cfg env<cfg.plandLandAlt ∧
      cmds=[if cfg.plandUseDisarm=true then .disarm else .land] := by
  obtain ⟨cmd,hmem,hends⟩ := hends
  rcases hcmds with rfl|rfl
  · dsimp only [stepGlobalEnu] at hmem ⊢
    split at hmem
    · rename_i heq
      exact executeZStateMachine_none heq rfl
    · obtain rfl := List.mem_singleton.mp hmem
      rcases hends with h|h <;> cases h
  · dsimp only [stepPureVisual] at hmem ⊢
    split at hmem
    · rename_i heq
      exact executeZStateMachine_none heq rfl
    · obtain rfl := List.mem_singleton.mp hmem
      rcases hends with h|h <;> cases h

/-- Only the servoing branch ends a flight. -/
theorem onStep_ends_flight (hends : ∃ cmd∈(onStep cfg env dt s).2,EndsFlight cmd) :
    (stepBranch cfg env s).1=.servo ∧ currentZ cfg env<cfg.plandLandAlt ∧
      (onStep cfg env dt s).2=[if cfg.plandUseDisarm=true then .disarm else .land] := by
  rw [onStep] at hends ⊢
  generalize stepBranch cfg env s=b at *
  obtain ⟨branch,t⟩ := b
  cases branch with
  | approach target =>
    obtain ⟨cmd,hmem,hends⟩ := hends
    obtain rfl := List.mem_singleton.mp hmem
    rcases hends with h|h <;> cases h
  | unobserved =>
    obtain ⟨cmd,hmem,_⟩ := hends
    cases hmem
  | lost =>
    obtain ⟨cmd,hmem,hends⟩ := hends
    have hplain : ∃ pos vel,cmd=.sendPosCmd pos ∨ ∃ yaw rate frame,cmd=.sendVelCmd vel yaw rate frame := by
      dsimp only [lostStep] at hmem
      split at hmem
      · obtain rfl := List.mem_singleton.mp hmem
        cases t.currentMode with
        | globalEnu => exact ⟨_,.zero,Or.inl rfl⟩
        | pureVisualBody => exact ⟨{ pos := .zero },_,Or.inr ⟨_,_,_,rfl⟩⟩
      · split at hmem
        · obtain rfl := List.mem_singleton.mp hmem
          exact ⟨_,.zero,Or.inl rfl⟩
        · obtain rfl := List.mem_singleton.mp hmem
          exact ⟨{ pos := .zero },_,Or.inr ⟨_,_,_,rfl⟩⟩
    obtain ⟨pos,vel,rfl|⟨yaw,rate,frame,rfl⟩⟩ := hplain <;> rcases hends with h|h <;> cases h
  | servo =>
    refine ⟨rfl,servo_ends_flight dt t ?_ hends⟩
    dsimp only
    split
    · exact Or.inl rfl
    · exact Or.inr rfl

/-- A step that looks counts what it sees, and servoes on an observation that was fresh
at most twenty looks ago. -/
structure LookCounted (env : PlandEnv) (s : PlandState) (b : StepBranch×PlandState) : Prop where
  fresh : FreshObs env s → b.2.invalidTime=0
  stale : ¬FreshObs env s → b.2.invalidTime=s.invalidTime+1
  looks : ∀ target,b.1≠.approach target
  servo : b.1=.servo → s.latestObs.stamp≠0 ∧ b.2.invalidTime ≤ 20

/-- The choice made by the observation. -/
theorem lookCounted_observedBranch (cfg : PlandConfig ℝ) (env : PlandEnv) (s : PlandState) :
    LookCounted env s (observedBranch cfg env s) := by
  have hfresh : FreshObs env s ↔ ¬(s.latestObs.isValid=false ∨
      (s.latestObs.stamp=0 ∨ 1<env.now-s.latestObs.stamp)) := by
    rw [FreshObs,not_or,not_or,not_lt,Bool.not_eq_false]
  rw [observedBranch]
  by_cases hseen : FreshObs env s
  · rw [if_neg (hfresh.mp hseen),if_neg hseen.2.1]
    refine ⟨fun _ => rfl,fun h => absurd hseen h,fun target h => ?_,fun _ => ⟨hseen.2.1,Nat.zero_le _⟩⟩
    split at h <;> cases h
  · rw [if_pos (not_not.mp (mt hfresh.mpr hseen))]
    by_cases hstamp : s.latestObs.stamp=0
    · rw [if_pos hstamp]
      refine ⟨fun h => absurd h hseen,fun _ => rfl,fun target h => ?_,fun h => ?_⟩
      · cases h
      · cases h
    · rw [if_neg hstamp]
      refine ⟨fun h => absurd h hseen,fun _ => rfl,fun target h => ?_,fun h => ⟨hstamp,?_⟩⟩
      · split at h <;> cases h
      · split at h
        · cases h
        · exact not_lt.mp ‹_›

/-- A step flies towards an injected target, or it looks. -/
theorem stepBranch_look (cfg : PlandConfig ℝ) (env : PlandEnv) (s : PlandState) :
    (lookOf cfg env s=none ∧ (stepBranch cfg env s).2.invalidTime=s.invalidTime ∧
      (stepBranch cfg env s).1≠.servo) ∨
    LookCounted env s (stepBranch cfg env s) := by
  rw [lookOf,stepBranch]
  cases injectedTarget cfg env with
  | none => exact Or.inr (lookCounted_observedBranch cfg env s)
  | some target =>
    dsimp only
    by_cases hnear : approachNext cfg env target s.isApproachingTarget=true
    · rw [if_pos hnear]
      refine Or.inl ⟨rfl,rfl,fun h => ?_⟩
      cases h
    · rw [if_neg hnear]
      have hlook := lookCounted_observedBranch cfg env
        { s with isApproachingTarget := approachNext cfg env target s.isApproachingTarget }
      exact Or.inr ⟨hlook.fresh,hlook.stale,hlook.looks,hlook.servo⟩

open Classical in
/-- The record of a look. -/
theorem LookCounted.lookOf_eq (h : LookCounted env s (stepBranch cfg env s)) :
    lookOf cfg env s=some (decide (FreshObs env s)) := by
  have hlooks := h.looks
  rw [lookOf]
  cases hbranch : (stepBranch cfg env s).1 with
  | approach target => exact absurd hbranch (hlooks target)
  | _ => rfl

end

/-- Controller and history agree. -/
structure Sighting (stamp : ℝ) (s : PlandState) (history : List SightEvent) : Prop where
  /-- The counter counts the latest looks without a fresh observation. -/
  missed : s.invalidTime=((looks history).takeWhile (!·)).length
  /-- A stamp comes from an observation. -/
  sighted : s.latestObs.stamp≠0 → stamp≠0 ∨ ∃ result,.sighted result∈history

/-- Few misses leave a hit among the latest entries. -/
theorem mem_take_of_takeWhile {seen : List Bool} {n : ℕ} (hfew : (seen.takeWhile (!·)).length ≤ n)
    (henough : n+1 ≤ seen.length) : true∈seen.take (n+1) := by
  induction seen generalizing n with
  | nil => exact absurd henough (Nat.not_succ_le_zero n)
  | cons x seen ih =>
    cases x with
    | true => exact List.mem_cons_self
    | false =>
      have hcons : ((false::seen).takeWhile (!·)).length=(seen.takeWhile (!·)).length+1 := rfl
      rw [hcons] at hfew
      obtain ⟨m,rfl⟩ := Nat.exists_eq_succ_of_ne_zero (n := n) (by omega)
      rw [List.length_cons] at henough
      exact List.mem_cons_of_mem _ (ih (by omega) (by omega))

open Classical in
/-- Every input keeps the agreement. -/
theorem sighting_step {stamp : ℝ} {s : PlandState} {history : List SightEvent}
    (h : Sighting stamp s history) (i : PlandInput) :
    Sighting stamp (advance s i) ((sightEvent s i).toList++history) := by
  cases i with
  | start env =>
    dsimp only [advance,react,sightEvent]
    split
    · exact h
    · exact ⟨h.missed,h.sighted⟩
  | stop => exact ⟨h.missed,h.sighted⟩
  | observe result =>
    dsimp only [advance,react,sightEvent,updateObservation]
    by_cases hvalid : result.isValid=true
    · rw [if_pos hvalid,if_pos hvalid]
      refine ⟨h.missed.trans ?_,fun _ => Or.inr ⟨result,List.mem_cons_self⟩⟩
      rfl
    · rw [if_neg hvalid,if_neg hvalid]
      exact h
  | step cfg env dt =>
    dsimp only [advance,react,sightEvent]
    by_cases hrun : s.running=true
    · rw [if_pos hrun,if_pos hrun]
      obtain ⟨r,m,a,hstate⟩ := onStep_state cfg env dt s
      rw [hstate]
      refine ⟨?_,fun hstamp => ?_⟩
      · have hcons : looks ((some (SightEvent.controlled ⟨cfg,currentZ cfg env,lookOf cfg env s,
            (onStep cfg env dt s).2⟩)).toList++history)=
            (lookOf cfg env s).toList++looks history := looks_cons _ _
        dsimp only
        rw [hcons]
        rcases stepBranch_look cfg env s with ⟨hnone,hsame,_⟩|hlook
        · rw [hsame,h.missed,hnone]
          rfl
        · rw [hlook.lookOf_eq]
          by_cases hfresh : FreshObs env s
          · rw [hlook.fresh hfresh,decide_eq_true hfresh]
            rfl
          · rw [hlook.stale hfresh,h.missed,decide_eq_false hfresh]
            rfl
      · rcases h.sighted hstamp with hfirst|⟨result,hmem⟩
        · exact Or.inl hfirst
        · exact Or.inr ⟨result,List.mem_append_right _ hmem⟩
    · rw [if_neg hrun,if_neg hrun]
      exact h

/-- A touchdown is justified wherever controller and history agree. -/
theorem justified_step {stamp : ℝ} {s : PlandState} {history : List SightEvent}
    (h : Sighting stamp s history) (i : PlandInput) (e : SightEvent) (he : sightEvent s i=some e) :
    TouchdownJustified stamp e history := by
  rintro r rfl hends
  cases i with
  | start env => cases he
  | stop => cases he
  | observe result =>
    rw [sightEvent] at he
    split at he <;> cases he
  | step cfg env dt =>
    rw [sightEvent] at he
    split at he
    · obtain rfl := SightEvent.controlled.inj (Option.some.inj he)
      obtain ⟨hservo,hlow,hcmds⟩ := onStep_ends_flight hends
      rcases stepBranch_look cfg env s with ⟨_,_,hno⟩|hlook
      · exact absurd hservo hno
      · obtain ⟨hstamp,hfew⟩ := hlook.servo hservo
        have hnext := (sighting_step h (.step cfg env dt)).missed
        obtain ⟨_,_,_,hstate⟩ := onStep_state cfg env dt s
        dsimp only [advance,react,sightEvent] at hnext
        rw [if_pos ‹_›,if_pos ‹_›,hstate] at hnext
        exact ⟨hlow,hcmds,h.sighted hstamp,
          fun henough => mem_take_of_takeWhile (hnext.symm.le.trans hfew) henough⟩
    · cases he

/-- In every run of starts, stops, observations and control steps: a flight is ended below the
touchdown height only, by the configured command, after some valid observation, and with a
fresh one among the latest 21 looks. -/
theorem touchdown_justified (stamp : ℝ) (pureVision : Bool) (inputs : List PlandInput) :
    Throughout (TouchdownJustified stamp) (sightedRun stamp pureVision inputs).2 := by
  refine recorded_throughout (fun _ _ => True) (Sighting stamp) ?_ ?_ inputs
    ⟨rfl,fun hstamp => Or.inl hstamp⟩ (guarded_of_forall (fun _ _ => trivial) _ inputs)
  · exact fun s history i h _ => sighting_step h i
  · exact fun s history i e h _ he => justified_step h i e he

end Dankong.Pland

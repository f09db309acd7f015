import Dankong.History
import Dankong.LandingController

/-!
# When a blind descent is commanded

A control step that has lost its target continues to descend blindly if the
blind-drop flag is set. The flag is earned by a low and accurate step; it is
taken back above the reset height, but only by steps that reach the vertical
control, and it survives a stop and the next start. Recorded runs state what the
flag stands for while both gaps stay unused.
-/

namespace Dankong.Pland

open History Runs

/-- What an observer of one control step sees. -/
structure StepRecord where
  /-- Configuration the step reads. -/
  cfg : PlandConfig ℝ
  /-- Height above the platform. -/
  height : ℝ
  /-- Horizontal error handed to the vertical control, when the step gets there. -/
  xyError : Option ℝ
  /-- Whether the lost-target branch commands a continued blind descent. -/
  blindDescent : Bool

/-- Recorded events of a controller. -/
inductive PlandEvent
  /-- An activation begins. -/
  | started
  /-- A control step was made. -/
  | stepped (r : StepRecord)

noncomputable section

/-- The horizontal error the servoing branch hands to the vertical control. -/
def servoXyError (cfg : PlandConfig ℝ) (env : PlandEnv) : StepBranch×PlandState → Option ℝ
  | (.servo,s) => match s.currentMode with
    | .globalEnu => some (enuXyError cfg env s)
    | .pureVisualBody => some (visualXyError s)
  | _ => none

/-- Whether the chosen branch commands a continued blind descent. -/
def descendsBlindly : StepBranch×PlandState → Bool
  | (.lost,s) => s.isBlindDrop
  | _ => false

/-- The record of a control step. -/
def stepRecord (cfg : PlandConfig ℝ) (env : PlandEnv) (s : PlandState) : StepRecord where
  cfg := cfg
  height := currentZ cfg env
  xyError := servoXyError cfg env (stepBranch cfg env s)
  blindDescent := descendsBlindly (stepBranch cfg env s)

/-- The event an input leaves behind. -/
def plandEvent (s : PlandState) : PlandInput → Option PlandEvent
  | .start _ => if s.running=true then none else some .started
  | .step cfg env _ => if s.running=true then some (.stepped (stepRecord cfg env s)) else none
  | _ => none

/-- A run with its history. -/
def recordedRun (stamp : ℝ) (pureVision : Bool) (inputs : List PlandInput) :
    PlandState×List PlandEvent :=
  runFrom (recordStep advance plandEvent) (constructed stamp pureVision,[]) inputs

end

/-- A low step with a small horizontal error. -/
def Earns : PlandEvent → Prop
  | .started => False
  | .stepped r => r.height<r.cfg.plandBlindDropAlt ∧
    ∃ err,r.xyError=some err ∧ err<r.cfg.blindDropXyThresh

/-- Neither a start nor a step above the reset height. -/
def Keeps : PlandEvent → Prop
  | .started => False
  | .stepped r => ¬resetHeight r.cfg<r.height

/-- A continued blind descent has been earned since the latest start and since
the height last exceeded the reset height. -/
def DescentEarned (e : PlandEvent) (earlier : List PlandEvent) : Prop :=
  ∀ r,e=.stepped r → r.blindDescent=true → Since Earns Keeps (e::earlier)

/-- Guard: an activation begins with the flag clear, and a step above the reset
height that finds the flag set reaches the vertical control before touchdown. -/
def FlagTakenBack (s : PlandState) : PlandInput → Prop
  | .start _ => s.running=false → s.isBlindDrop=false
  | .step cfg env _ => s.running=true → s.isBlindDrop=true → resetHeight cfg<currentZ cfg env →
    (stepBranch cfg env s).1=.servo ∧ ¬currentZ cfg env<cfg.plandLandAlt
  | _ => True

section

variable (cfg : PlandConfig ℝ) (env : PlandEnv) (dt : ℝ) (s : PlandState)

/-- The vertical control changes the flag only, by the blind-drop decision, and
not at all on touchdown. -/
theorem executeZStateMachine_state (z xyError yawErrorDeg droneEnuZ : ℝ) :
    (executeZStateMachine cfg z xyError yawErrorDeg droneEnuZ s).2.1=
      { s with isBlindDrop := if z<cfg.plandLandAlt then s.isBlindDrop
          else blindDropNext cfg z xyError s.isBlindDrop } := by
  have hland := calculateSharedZDescent_shouldLand cfg z xyError s.isBlindDrop yawErrorDeg droneEnuZ
  dsimp only [executeZStateMachine]
  by_cases hz : z<cfg.plandLandAlt
  · rw [if_pos (hland.mpr hz),if_pos hz]
  · rw [if_neg (fun hc => hz (hland.mp hc)),if_neg hz,
      calculateSharedZDescent_isBlindDrop cfg z xyError s.isBlindDrop yawErrorDeg droneEnuZ hz]

/-- The state in a result of the vertical control, whatever its command. -/
theorem executeZStateMachine_state_of_eq {z xyError yawErrorDeg droneEnuZ : ℝ}
    {out : Option (ZControlCmd ℝ)×PlandState×List PlandCmd}
    (hout : executeZStateMachine cfg z xyError yawErrorDeg droneEnuZ s=out) :
    out.2.1={ s with isBlindDrop := if z<cfg.plandLandAlt then s.isBlindDrop
      else blindDropNext cfg z xyError s.isBlindDrop } := by
  rw [←hout,executeZStateMachine_state]

/-- The flag after a servoing step with the given horizontal error. -/
noncomputable def servoFlag (xyError : ℝ) : Bool :=
  if currentZ cfg env<cfg.plandLandAlt then s.isBlindDrop
  else blindDropNext cfg (currentZ cfg env) xyError s.isBlindDrop

/-- A step of the global mode changes the flag and the trajectory. -/
theorem stepGlobalEnu_state : ∃ r,(stepGlobalEnu cfg env dt s).1=
    { s with trajGen := r, isBlindDrop := servoFlag cfg env s (enuXyError cfg env s) } := by
  dsimp only [stepGlobalEnu]
  split
  all_goals
    rename_i heq
    exact ⟨_,executeZStateMachine_state_of_eq cfg _ heq⟩

/-- A step of the visual mode changes the flag. -/
theorem stepPureVisual_state : (stepPureVisual cfg env s).1=
    { s with isBlindDrop := servoFlag cfg env s (visualXyError s) } := by
  dsimp only [stepPureVisual]
  split
  all_goals
    rename_i heq
    exact executeZStateMachine_state_of_eq cfg s heq

/-- Choosing a branch counts lost frames, chooses the mode and updates the
approach; the rest of the state stays. -/
theorem stepBranch_state : ∃ n m a,(stepBranch cfg env s).2=
    { s with invalidTime := n, currentMode := m, isApproachingTarget := a } := by
  have hobserved : ∀ t : PlandState,∃ n m,(observedBranch cfg env t).2=
      { t with invalidTime := n, currentMode := m } := by
    intro t
    dsimp only [observedBranch]
    split
    · exact ⟨_,t.currentMode,rfl⟩
    · exact ⟨_,_,rfl⟩
  dsimp only [stepBranch]
  split
  · obtain ⟨n,m,h⟩ := hobserved s
    exact ⟨n,m,s.isApproachingTarget,h⟩
  · split
    · exact ⟨s.invalidTime,s.currentMode,_,rfl⟩
    · obtain ⟨n,m,h⟩ := hobserved { s with
        isApproachingTarget := approachNext cfg env _ s.isApproachingTarget }
      exact ⟨n,m,_,h⟩

/-- The flag after a control step. -/
noncomputable def stepFlag : Bool :=
  match servoXyError cfg env (stepBranch cfg env s) with
  | none => s.isBlindDrop
  | some err => servoFlag cfg env s err

/-- What a control step does to the state. -/
theorem onStep_state : ∃ r m a,(onStep cfg env dt s).1=
    { s with
      trajGen := r
      currentMode := m
      isApproachingTarget := a
      invalidTime := (stepBranch cfg env s).2.invalidTime
      isBlindDrop := stepFlag cfg env s } := by
  obtain ⟨n,m,a,hstate⟩ := stepBranch_state cfg env s
  dsimp only [onStep,stepFlag]
  generalize stepBranch cfg env s=b at *
  obtain ⟨branch,t⟩ := b
  obtain rfl : t=_ := hstate
  cases branch with
  | approach target => exact ⟨_,m,a,rfl⟩
  | unobserved => exact ⟨s.trajGen,m,a,rfl⟩
  | lost =>
    dsimp only [lostStep]
    split
    · exact ⟨s.trajGen,m,a,rfl⟩
    · cases m with
      | globalEnu => exact ⟨_,.globalEnu,a,rfl⟩
      | pureVisualBody => exact ⟨s.trajGen,.pureVisualBody,a,rfl⟩
  | servo =>
    cases m with
    | globalEnu =>
      obtain ⟨r,hr⟩ := stepGlobalEnu_state cfg env dt _
      exact ⟨r,.globalEnu,a,hr⟩
    | pureVisualBody => exact ⟨s.trajGen,.pureVisualBody,a,stepPureVisual_state cfg env _⟩

/-- A recorded blind descent is what the step commands. -/
theorem onStep_of_descendsBlindly (h : descendsBlindly (stepBranch cfg env s)=true) :
    (onStep cfg env dt s).2=[blindDescentCmd cfg env (stepBranch cfg env s).2.currentMode] := by
  dsimp only [onStep]
  generalize stepBranch cfg env s=b at *
  obtain ⟨branch,t⟩ := b
  cases branch with
  | lost =>
    dsimp only [lostStep]
    rw [if_pos (show t.isBlindDrop=true from h)]
  | _ => exact absurd h (by simp [descendsBlindly])

/-- A step that leaves the flag set has earned it, or has found it set and, if
the guard holds, has not been above the reset height. -/
theorem stepFlag_cases (h : stepFlag cfg env s=true) (hrun : s.running=true)
    (hok : FlagTakenBack s (.step cfg env dt)) :
    Earns (.stepped (stepRecord cfg env s)) ∨
      Keeps (.stepped (stepRecord cfg env s)) ∧ s.isBlindDrop=true := by
  have hkeep : s.isBlindDrop=true →
      ¬((stepBranch cfg env s).1=.servo ∧ ¬currentZ cfg env<cfg.plandLandAlt) →
      Keeps (.stepped (stepRecord cfg env s)) ∧ s.isBlindDrop=true :=
    fun hflag hno => ⟨fun hhigh => hno (hok hrun hflag hhigh),hflag⟩
  dsimp only [stepFlag] at h
  cases herr : servoXyError cfg env (stepBranch cfg env s) with
  | none =>
    rw [herr] at h
    refine Or.inr (hkeep h fun hservo => ?_)
    generalize stepBranch cfg env s=b at *
    obtain ⟨branch,t⟩ := b
    obtain rfl : branch=.servo := hservo.1
    dsimp only [servoXyError] at herr
    split at herr <;> cases herr
  | some err =>
    rw [herr] at h
    dsimp only [servoFlag] at h
    by_cases hland : currentZ cfg env<cfg.plandLandAlt
    · rw [if_pos hland] at h
      exact Or.inr (hkeep h fun hservo => hservo.2 hland)
    · rw [if_neg hland] at h
      rcases blindDropNext_eq_true cfg (currentZ cfg env) err s.isBlindDrop h with hearn|hold
      · exact Or.inl ⟨hearn.1,err,herr,hearn.2⟩
      · exact Or.inr hold

end

/-- Run invariant: a set flag has been earned and kept. -/
def FlagEarned (s : PlandState) (history : List PlandEvent) : Prop :=
  s.isBlindDrop=true → Since Earns Keeps history

/-- Every guarded input keeps the flag earned. -/
theorem advance_flagEarned (s : PlandState) (history : List PlandEvent) (i : PlandInput)
    (h : FlagEarned s history) (hok : FlagTakenBack s i) :
    FlagEarned (advance s i) ((plandEvent s i).toList++history) := by
  cases i with
  | start env =>
    dsimp only [advance,react,plandEvent]
    split
    · exact h
    · rename_i hrun
      intro hflag
      exact absurd (hok (by simpa using hrun)) (by simpa [onStart] using hflag)
  | stop => exact h
  | observe result =>
    dsimp only [advance,react,updateObservation]
    split <;> exact h
  | step cfg env dt =>
    dsimp only [advance,react,plandEvent]
    split
    · rename_i hrun
      intro hflag
      obtain ⟨r,m,a,hstate⟩ := onStep_state cfg env dt s
      rw [hstate] at hflag
      refine (since_cons _ history).mpr ?_
      rcases stepFlag_cases cfg env dt s hflag hrun hok with hearn|⟨hkeep,hset⟩
      · exact Or.inl hearn
      · exact Or.inr ⟨hkeep,h hset⟩
    · exact h

/-- Under the invariant every recorded descent of a guarded input is earned. -/
theorem descentEarned_of_flagEarned (s : PlandState) (history : List PlandEvent) (i : PlandInput)
    (e : PlandEvent) (h : FlagEarned s history) (hok : FlagTakenBack s i)
    (he : plandEvent s i=some e) : DescentEarned e history := by
  cases i with
  | start env =>
    dsimp only [plandEvent] at he
    split at he
    · cases he
    · obtain rfl := Option.some.inj he
      intro r hr
      cases hr
  | stop => cases he
  | observe result => cases he
  | step cfg env dt =>
    dsimp only [plandEvent] at he
    split at he
    · rename_i hrun
      obtain rfl := Option.some.inj he
      rintro r hr hblind
      obtain rfl := PlandEvent.stepped.inj hr
      obtain ⟨n,m,a,hstate⟩ := stepBranch_state cfg env s
      have hlost : (stepBranch cfg env s).1=.lost ∧ s.isBlindDrop=true := by
        dsimp only [stepRecord] at hblind
        generalize stepBranch cfg env s=b at *
        obtain ⟨branch,t⟩ := b
        obtain rfl : t=_ := hstate
        cases branch with
        | lost => exact ⟨rfl,hblind⟩
        | _ => cases hblind
      refine (since_cons _ history).mpr (Or.inr ⟨fun hhigh => ?_,h hlost.2⟩)
      have hservo := (hok hrun hlost.2 hhigh).1
      rw [hlost.1] at hservo
      cases hservo
    · cases he

/-- In every run in which each activation begins with the flag clear and each
step above the reset height that finds the flag set reaches the vertical
control, every continued blind descent of the lost-target branch has been
earned since the latest start and since the height last exceeded the reset
height. -/
theorem blind_descent_earned (stamp : ℝ) (pureVision : Bool) (inputs : List PlandInput)
    (hg : Guarded (recordStep advance plandEvent) (fun r i => FlagTakenBack r.1 i)
      (constructed stamp pureVision,[]) inputs) :
    Throughout DescentEarned (recordedRun stamp pureVision inputs).2 :=
  recorded_throughout _ _ advance_flagEarned descentEarned_of_flagEarned inputs
    (fun hflag => (nomatch hflag)) hg

noncomputable section

/-- A detection straight below the vehicle. -/
def seen : DetectorResult := { isValid := true, stamp := 1 }

/-- Surroundings of a level vehicle at a height and time. -/
def hoveringAt (height now : ℝ) : PlandEnv where
  now := now
  posEnu := ⟨0,0,height⟩
  orientation := ⟨1,0,0,0⟩
  yawEnu := 0
  rangefinderAlt := height

/-- A landing that loses the tag just above the platform. -/
def lostLanding : List PlandInput :=
  [.observe seen,.start (hoveringAt 0.2 1),.step .initial (hoveringAt 0.2 1) 0.1]++
    List.replicate 21 (.step .initial (hoveringAt 0.2 10.0) 0.1)

/-- The same landing, stopped and started again ten metres up. -/
def restartedLanding : List PlandInput :=
  lostLanding++[.stop,.start (hoveringAt 10.0 20.0),.step .initial (hoveringAt 10.0 20.0) 0.1]

end

/-- Height of the low vehicle above the platform. -/
theorem currentZ_low (now : ℝ) : currentZ .initial (hoveringAt 0.2 now)=0.2 := by
  norm_num [currentZ,getCurrentZ,hoveringAt,PlandConfig.initial]

/-- Height of the high vehicle above the platform. -/
theorem currentZ_high (now : ℝ) : currentZ .initial (hoveringAt 10.0 now)=10.0 := by
  norm_num [currentZ,getCurrentZ,hoveringAt,PlandConfig.initial]

/-- The default reset height. -/
theorem resetHeight_initial : resetHeight (.initial : PlandConfig ℝ)=1 := by
  norm_num [resetHeight,PlandConfig.initial]

/-- A step near the platform always meets the guard. -/
theorem flagTakenBack_low (now dt : ℝ) (s : PlandState) :
    FlagTakenBack s (.step .initial (hoveringAt 0.2 now) dt) := by
  intro _ _ hhigh
  rw [resetHeight_initial,currentZ_low] at hhigh
  norm_num at hhigh

/-- The guard holds throughout the lost landing. -/
theorem lostLanding_guarded : Guarded (recordStep advance plandEvent)
    (fun r i => FlagTakenBack r.1 i) (constructed 0 true,[]) lostLanding := by
  refine (guarded_append _ _ _).mpr ⟨⟨trivial,fun _ => rfl,flagTakenBack_low 1 0.1 _,trivial⟩,
    guarded_of_mem _ (fun i hi r => ?_) _⟩
  rw [(List.mem_replicate.mp hi).2]
  exact flagTakenBack_low 10.0 0.1 r.1

/-- In the lost landing every continued blind descent has been earned. -/
theorem lostLanding_earned : Throughout DescentEarned (recordedRun 0 true lostLanding).2 :=
  blind_descent_earned 0 true lostLanding lostLanding_guarded

section

variable (s : PlandState) (hobs : s.latestObs=seen)

include hobs

/-- The branch of a step that sees an outdated detection. -/
theorem stepBranch_outdated (height now : ℝ) (hnow : 2<now) :
    stepBranch .initial (hoveringAt height now) s=
      (if 20 < s.invalidTime+1 then .lost else .servo,
        { s with invalidTime := s.invalidTime+1, currentMode := .pureVisualBody }) := by
  have hage : 1<now-1 := by linarith
  simp [stepBranch,injectedTarget,observedBranch,hoveringAt,hobs,seen,hage,PlandConfig.initial]

/-- The branch of a step that sees a fresh detection. -/
theorem stepBranch_fresh (height : ℝ) :
    stepBranch .initial (hoveringAt height 1) s=
      (.servo,{ s with invalidTime := 0, currentMode := .pureVisualBody }) := by
  norm_num [stepBranch,injectedTarget,observedBranch,hoveringAt,hobs,seen,PlandConfig.initial]

/-- A low servoing step over the detection sets the flag. -/
theorem servoFlag_low (now : ℝ) :
    servoFlag .initial (hoveringAt 0.2 now) s (visualXyError s)=true := by
  have herr : visualXyError s=0 := by
    simp [visualXyError,hobs,seen,norm2,StateUtils.hypot,Vec3.horizontal,Vec3.zero]
  dsimp only [servoFlag]
  rw [currentZ_low,herr,if_neg (by norm_num [PlandConfig.initial])]
  exact blindDropNext_of_accurate _ _ _ _ (by norm_num [PlandConfig.initial])
    (by norm_num [PlandConfig.initial])

end

/-- A running controller with a set flag that has missed some frames. -/
structure Missing (missed : ℕ) (s : PlandState) : Prop where
  /-- The controller runs. -/
  running : s.running=true
  /-- The detection is the one above. -/
  latestObs : s.latestObs=seen
  /-- The flag is set. -/
  isBlindDrop : s.isBlindDrop=true
  /-- The count of missed frames. -/
  invalidTime : s.invalidTime=missed

/-- One more missed frame near the platform. -/
theorem Missing.step {missed : ℕ} {s : PlandState} (h : Missing missed s) :
    Missing (missed+1) (advance s (.step .initial (hoveringAt 0.2 10.0) 0.1)) := by
  obtain ⟨r,m,a,hstate⟩ := onStep_state .initial (hoveringAt 0.2 10.0) 0.1 s
  have hbranch := stepBranch_outdated s h.latestObs 0.2 10.0 (by norm_num)
  have hflag : stepFlag .initial (hoveringAt 0.2 10.0) s=true := by
    dsimp only [stepFlag]
    rw [hbranch]
    split
    · exact h.isBlindDrop
    · rename_i err herr
      split at herr
      · cases herr
      · obtain rfl := Option.some.inj herr
        exact servoFlag_low s h.latestObs 10.0
  have hadvance : advance s (.step .initial (hoveringAt 0.2 10.0) 0.1)=
      (onStep .initial (hoveringAt 0.2 10.0) 0.1 s).1 := by
    dsimp only [advance,react]
    rw [if_pos h.running]
  rw [hadvance,hstate,hbranch,hflag]
  exact ⟨h.running,h.latestObs,rfl,by dsimp only; rw [h.invalidTime]⟩

/-- Several missed frames near the platform. -/
theorem Missing.replicate {missed : ℕ} {s : PlandState} (h : Missing missed s) (n : ℕ) :
    Missing (missed+n) (runFrom advance s
      (List.replicate n (.step .initial (hoveringAt 0.2 10.0) 0.1))) := by
  induction n generalizing missed s with
  | zero => exact h
  | succ n ih =>
    have hnext := ih h.step
    rwa [Nat.add_assoc,Nat.add_comm 1] at hnext

/-- After the lost landing the flag is set and twenty-one frames are missing. -/
theorem lostLanding_missing : Missing 21 (recordedRun 0 true lostLanding).1 := by
  have hfirst : Missing 0 (runFrom advance (constructed 0 true)
      [.observe seen,.start (hoveringAt 0.2 1),.step .initial (hoveringAt 0.2 1) 0.1]) := by
    obtain ⟨r,m,a,hstate⟩ := onStep_state .initial (hoveringAt 0.2 1) 0.1
      { onStart (hoveringAt 0.2 1) (updateObservation seen (constructed 0 true)) with
        running := true }
    have hobs : (updateObservation seen (constructed 0 true)).latestObs=seen := rfl
    have hbranch := stepBranch_fresh
      { onStart (hoveringAt 0.2 1) (updateObservation seen (constructed 0 true)) with
        running := true } hobs 0.2
    refine ⟨congrArg PlandState.running hstate,congrArg PlandState.latestObs hstate,
      (congrArg PlandState.isBlindDrop hstate).trans ?_,
      (congrArg PlandState.invalidTime hstate).trans ?_⟩
    · dsimp only [stepFlag]
      rw [hbranch]
      exact servoFlag_low _ hobs 1
    · dsimp only
      rw [hbranch]
  have hrun := hfirst.replicate 21
  rw [←runFrom_append] at hrun
  dsimp only [recordedRun]
  rw [recorded_state]
  exact hrun

/-- Restarted ten metres up, the controller continues the blind descent of the
previous landing at once, so a continued blind descent has not been earned in
every run. -/
theorem restartedLanding_unearned :
    ¬∀ (stamp : ℝ) (pureVision : Bool) (inputs : List PlandInput),
      Throughout DescentEarned (recordedRun stamp pureVision inputs).2 := by
  intro h
  have hfits := h 0 true restartedLanding
  have hsplit : recordedRun 0 true restartedLanding=
      runFrom (recordStep advance plandEvent) (recordedRun 0 true lostLanding)
        [.stop,.start (hoveringAt 10.0 20.0),.step .initial (hoveringAt 10.0 20.0) 0.1] :=
    runFrom_append _ _ _
  have hmissing := lostLanding_missing
  rw [hsplit] at hfits
  generalize recordedRun 0 true lostLanding=r at *
  obtain ⟨hlast,-⟩ := (throughout_cons _ _).mp hfits
  have hbranch := stepBranch_outdated
    { onStart (hoveringAt 10.0 20.0) { r.1 with running := false } with running := true }
    hmissing.latestObs 10.0 20.0 (by norm_num)
  have hblind : (stepRecord .initial (hoveringAt 10.0 20.0)
      { onStart (hoveringAt 10.0 20.0) { r.1 with running := false } with
        running := true }).blindDescent=true := by
    dsimp only [stepRecord]
    rw [hbranch]
    simp only [onStart,hmissing.invalidTime]
    exact hmissing.isBlindDrop
  rcases (since_cons _ _).mp (hlast _ rfl hblind) with hearn|⟨hkeep,-⟩
  · have hlow : currentZ .initial (hoveringAt 10.0 20.0)<(0.3 : ℝ) := hearn.1
    rw [currentZ_high] at hlow
    norm_num at hlow
  · refine hkeep ?_
    dsimp only [stepRecord]
    rw [resetHeight_initial,currentZ_high]
    norm_num

end Dankong.Pland

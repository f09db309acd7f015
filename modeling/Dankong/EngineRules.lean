import Dankong.FlightEngine
import Dankong.Runs

/-!
# Invariant rules for the flight engine

What the listeners and the interruptions can do is said once. A property of
the active state, the memories and the outputs, insensitive to the queue, is kept
by every step once it is kept by each elementary change; the elementary changes
are listed in one structure, so that an invariant is one instance of it.
-/

namespace Dankong.Flight

open Engine Runs

variable {R : Type*}

/-- A target that can only be entered under a mission in progress. -/
def Target.needsMission : Target R → Bool
  | .posVel .waypoint _ => true
  | .follow .waypoint => true
  | _ => false

/-- Every planned mission meets a condition. -/
def Queued (okMission : AcceptedMission R → Prop) (s : Engine R) : Prop :=
  ∀ p∈s.queue,∀ m,p.target=.mission m → okMission m

/-- Every mission that a label submits and the listener accepts meets a condition. -/
def Submits [Field R] (pf : Platform R) (okMission : AcceptedMission R → Prop) (s : Engine R) :
    Label R → Prop
  | .setWaypoint _ e => ∀ m : AcceptedMission R,
      acceptWaypoint pf s.ctx s.active.isInit s.active.isGround e=.ok m.event → okMission m
  | _ => True

/-- The labels that can start an interruption of a mission. -/
def Label.interrupts : Label R → Bool
  | .setPosVel .. => true
  | .detect false => true
  | _ => false

/-- Outputs that only trace the engine. -/
def Output.isQuiet : Output R → Bool
  | .ran _ => true
  | .posVelThrew => true
  | .posVelHung => true
  | _ => false

/-- Outputs made on entering a leg. -/
def Output.isLeg : Output R → Bool
  | .path .. => true
  | .node .. => true
  | .missionThrew => true
  | _ => false

/-- Entering a leg makes only outputs of that kind. -/
theorem isLeg_of_mem_excuteOutputs {pf : Platform R} {w : WaypointState R} {o : Output R}
    (ho : o∈excuteOutputs pf w) : o.isLeg=true := by
  dsimp only [excuteOutputs] at ho
  rcases List.mem_append.mp ho with ho|ho
  · rcases List.mem_append.mp ho with ho|ho
    · split at ho
      · rw [List.mem_singleton.mp ho]
        rfl
      · cases ho
    · obtain ⟨command,_,rfl⟩ := List.mem_map.mp (List.mem_reverse.mp ho)
      rfl
  · rw [List.mem_singleton.mp ho]
    rfl

/-- Entering a leg is invisible to what ignores its outputs. -/
theorem excuteOutputs_ignored {α : Type*} (f : List (Output R) → α)
    (hf : ∀ o log,o.isLeg=true → f (o::log)=f log) (pf : Platform R) (w : WaypointState R)
    (log : List (Output R)) : f (excuteOutputs pf w++log)=f log := by
  have hall : ∀ outputs : List (Output R),(∀ o∈outputs,o.isLeg=true) →
      f (outputs++log)=f log := by
    intro outputs houtputs
    induction outputs with
    | nil => rfl
    | cons o rest ih =>
      rw [List.cons_append,hf o _ (houtputs o List.mem_cons_self)]
      exact ih fun o' ho' => houtputs o' (List.mem_cons_of_mem _ ho')
  exact hall _ fun o ho => isLeg_of_mem_excuteOutputs ho

/-- Elementary changes of the engine. `okMission` restricts the missions that
are entered, `okInterrupt` the places where a mission is interrupted. -/
structure StepRule (pf : Platform R) (okMission : AcceptedMission R → Prop)
    (okInterrupt : WaypointState R → WaypointChild R → Prop) (P : Engine R → Prop) : Prop where
  /-- An interruption may be followed by another one. -/
  again : ∀ w x,okInterrupt w (.excursion x)
  /-- The plan changes. -/
  plan : ∀ s q fb,P s → P { s with queue := q, fallback := fb }
  /-- A request is answered. -/
  answer : ∀ s id result,P s → P (s.answer id result)
  /-- The vehicle reports. -/
  sense : ∀ s x,P s → P { s with ctx := { s.ctx with toSensors := x } }
  /-- The engine traces what it does. -/
  quiet : ∀ s o,o.isQuiet=true → P s → P (s.emit o)
  /-- A state outside a mission becomes active. -/
  settle : ∀ s a,a.isWaypoint=false → P s → P { s with active := a }
  /-- The ground is entered. -/
  ground : ∀ s,P s → P { s with
    active := .ground, ctx := { s.ctx with missionHomeEnu := none }, log := .groundEntered::s.log }
  /-- A restart. -/
  restart : ∀ s,P s → P { s with
    active := .init, ctx := { s.ctx with odomOk := false, missionHomeEnu := none }
    log := .restarted::s.log }
  /-- A takeoff succeeds in starting. -/
  takeoff : ∀ s event alt point,P s → P { s with
    active := .takeoff event true alt, ctx := { s.ctx with takeoffEnu := some point }
    log := .takeoffStarted point::s.log }
  /-- A mission with nothing to fly is entered. -/
  skip : ∀ s m a,okMission m → a.isWaypoint=false → P s → P { s with
    active := a
    ctx := { s.ctx with missionHomeEnu := homeAfter m.event s.ctx.posEnu s.ctx.missionHomeEnu }
    log := .missionEntered m.event s.ctx.posEnu::s.log }
  /-- A mission is entered and begins with its first point. -/
  fly : ∀ s m w,okMission m → missionEntry pf m.event=.fly w → P s → P { s with
    active := .waypoint w .lifting
    ctx := { s.ctx with missionHomeEnu := homeAfter m.event s.ctx.posEnu s.ctx.missionHomeEnu }
    log := .missionEntered m.event s.ctx.posEnu::s.log }
  /-- A mission is interrupted. -/
  interrupt : ∀ s w c x,s.active=.waypoint w c → okInterrupt w c → P s →
    P { s with active := .waypoint w (.excursion x) }
  /-- A mission is resumed. -/
  resume : ∀ s w x,s.active=.waypoint w (.excursion x) → w.InRange → P s →
    P { s with active := .waypoint w .lifting }
  /-- A leg begins. -/
  excute : ∀ s w,s.active=.waypoint w .lifting → w.InRange → P s → P { s with
    active := .waypoint w .excute, log := excuteOutputs pf w++s.log }
  /-- An arrival is followed by an adjustment. -/
  lift : ∀ s w,s.active=.waypoint w .excute → w.advance.InRange → P s → P { s with
    active := .waypoint w.advance .lifting
    log := .progress (w.wpIdx+1) w.wpList.length::s.log }
  /-- An arrival is followed by the next leg. -/
  next : ∀ s w,s.active=.waypoint w .excute → w.advance.InRange → P s → P { s with
    active := .waypoint w.advance .excute
    log := excuteOutputs pf w.advance++.progress (w.wpIdx+1) w.wpList.length::s.log }
  /-- The last arrival. -/
  finish : ∀ s w,s.active=.waypoint w .excute → w.InRange → ¬w.advance.InRange → P s → P { s with
    active := .waypoint w.advance .excute
    log := .taskDone::.progress (w.wpIdx+1) w.wpList.length::s.log }

/-- What a mission's plan consists of. -/
theorem target_of_mem_missionPlan {isGround : Bool} {alt : R} {m : AcceptedMission R}
    {p : Planned R} (hp : p∈missionPlan isGround alt m) :
    p.target=.takeoff none alt ∨ p.target=.mission m := by
  dsimp only [missionPlan] at hp
  split at hp
  · rcases List.mem_cons.mp hp with rfl|hp
    · exact Or.inl rfl
    · rw [List.mem_singleton.mp hp]
      exact Or.inr rfl
  · rw [List.mem_singleton.mp hp]
    exact Or.inr rfl

/-- The only mission of a mission's plan. -/
theorem mission_of_mem_missionPlan {isGround : Bool} {alt : R} {m m' : AcceptedMission R}
    {p : Planned R} (hp : p∈missionPlan isGround alt m) (hm : p.target=.mission m') : m=m' := by
  rcases target_of_mem_missionPlan hp with htakeoff|hmission
  · rw [htakeoff] at hm
    cases hm
  · exact Target.mission.inj (hmission.symm.trans hm)

/-- A mission's plan needs no mission in progress. -/
theorem needsMission_of_mem_missionPlan {isGround : Bool} {alt : R} {m : AcceptedMission R}
    {p : Planned R} (hp : p∈missionPlan isGround alt m) : p.target.needsMission=false := by
  rcases target_of_mem_missionPlan hp with htakeoff|hmission
  · rw [htakeoff]
    rfl
  · rw [hmission]
    rfl

/-- The listener's tick only ever grounds the vehicle. -/
theorem Engine.listenerTick_cases (s : Engine R) :
    s.listenerTick=s ∨ s.listenerTick=s.toGround := by
  dsimp only [listenerTick]
  split
  · split
    · exact Or.inl rfl
    · exact Or.inr rfl
  · split
    · exact Or.inl rfl
    · exact Or.inr rfl
  · exact Or.inl rfl

/-- A status text only ever gives up arming. -/
theorem Engine.onStatusText_cases (pf : Platform R) (s : Engine R) (text : String) :
    s.onStatusText pf text=s ∨ s.active=.arm ∧ s.onStatusText pf text=s.giveUp := by
  dsimp only [onStatusText]
  split
  · rename_i ha
    split
    · exact Or.inr ⟨ha,rfl⟩
    · exact Or.inl rfl
  · exact Or.inl rfl

/-- The result of arming only ever runs the plan behind it. -/
theorem Engine.onArm_cases [Field R] (pf : Platform R) (s : Engine R) (armed : Bool) :
    s.onArm pf armed=s ∨ s.active=.arm ∧ s.onArm pf armed=s.advance pf := by
  dsimp only [onArm]
  split
  · rename_i ha
    split
    · exact Or.inr ⟨ha,rfl⟩
    · exact Or.inl rfl
  · exact Or.inl rfl

/-- A detected target only ever starts following, under a mission or from
hovering. -/
theorem Engine.onDetect_cases [Field R] (pf : Platform R) (s : Engine R) (cooling : Bool) :
    s.onDetect pf cooling=s ∨ cooling=false ∧ ∃ parent,
      (parent=.waypoint → ∃ w c,s.active=.waypoint w c) ∧
        s.onDetect pf cooling=s.request pf ⟨.follow parent,false⟩ := by
  dsimp only [onDetect]
  cases cooling with
  | true => exact Or.inl rfl
  | false =>
    rw [if_neg Bool.false_ne_true]
    split
    · exact Or.inl rfl
    · exact Or.inr ⟨rfl,.hover,fun hp => (nomatch hp),rfl⟩
    · rename_i w c hw _
      exact Or.inr ⟨rfl,.waypoint,fun _ => ⟨w,c,hw⟩,rfl⟩
    · exact Or.inl rfl

/-- A point command that is entered interrupts, and may leave a trace. -/
theorem Engine.moveTo_cases [Field R] (pf : Platform R) (s : Engine R) (e : SetPosVelEvent R) :
    ∃ kept,s.moveTo pf e=s.interrupt (.posVel kept .move) ∨
      s.moveTo pf e=(s.interrupt (.posVel kept .move)).emit .posVelThrew ∨
      s.moveTo pf e=(s.interrupt (.posVel kept .move)).emit .posVelHung := by
  dsimp only [moveTo]
  split
  · exact ⟨e,Or.inr (Or.inr rfl)⟩
  · split
    · exact ⟨_,Or.inl rfl⟩
    · exact ⟨_,Or.inr (Or.inl rfl)⟩

section

variable (id : ℕ) (before s : Engine R)

/-- Behind a start there is one more answer, or none. -/
theorem Engine.resolveStarted_cases :
    resolveStarted id before s=s.answer id (.ok "OK") ∨ resolveStarted id before s=s := by
  dsimp only [resolveStarted]
  split
  · exact Or.inl rfl
  · exact Or.inr rfl

/-- What holds with the answer and without it holds behind a start. -/
theorem Engine.resolveStarted_keeps {P : Engine R → Prop} (hs : P s)
    (hanswered : P (s.answer id (.ok "OK"))) : P (resolveStarted id before s) := by
  rcases resolveStarted_cases id before s with heq|heq <;> rw [heq]
  · exact hanswered
  · exact hs

@[simp] theorem Engine.resolveStarted_active : (resolveStarted id before s).active=s.active := by
  rcases resolveStarted_cases id before s with heq|heq <;> rw [heq] <;> rfl

@[simp] theorem Engine.resolveStarted_queue : (resolveStarted id before s).queue=s.queue := by
  rcases resolveStarted_cases id before s with heq|heq <;> rw [heq] <;> rfl

@[simp] theorem Engine.resolveStarted_fallback :
    (resolveStarted id before s).fallback=s.fallback := by
  rcases resolveStarted_cases id before s with heq|heq <;> rw [heq] <;> rfl

@[simp] theorem Engine.resolveStarted_log : (resolveStarted id before s).log=s.log := by
  rcases resolveStarted_cases id before s with heq|heq <;> rw [heq] <;> rfl

end

/-- What a tick of an interruption can do: wait, turn after the flight, end, or
fail on the point it was given. -/
theorem Engine.excursionTick_cases [Field R] (pf : Platform R) (s : Engine R) (x : Excursion R)
    (o : TickObs) :
    s.excursionTick pf x o=s ∨ (∃ e,s.excursionTick pf x o=s.interrupt (.posVel e .laterTurn)) ∨
      s.excursionTick pf x o=s.resume ∨ s.excursionTick pf x o=s.emit .posVelThrew := by
  cases x with
  | follow => exact Or.inl rfl
  | posVel e child =>
    cases child with
    | move =>
      dsimp only [excursionTick,posVelTick]
      split
      · exact Or.inr (Or.inr (Or.inr rfl))
      · split_ifs
        · exact Or.inr (Or.inl ⟨e,rfl⟩)
        · exact Or.inr (Or.inr (Or.inl rfl))
        · exact Or.inr (Or.inr (Or.inl rfl))
        · exact Or.inl rfl
    | laterTurn =>
      dsimp only [excursionTick,posVelTick]
      split_ifs
      · exact Or.inr (Or.inr (Or.inl rfl))
      · exact Or.inl rfl

namespace StepRule

variable {pf : Platform R} {okMission : AcceptedMission R → Prop}
  {okInterrupt : WaypointState R → WaypointChild R → Prop} {P : Engine R → Prop} {s : Engine R}

theorem leave (h : StepRule pf okMission okInterrupt P) (hs : P s) : P s.leave := by
  dsimp only [Engine.leave]
  split
  · exact h.answer _ _ _ hs
  · exact hs

theorem goto (h : StepRule pf okMission okInterrupt P) (hs : P s) {a : Active R}
    (ha : a.isWaypoint=false) : P (s.goto a) := h.settle _ a ha (h.leave hs)

theorem toGround (h : StepRule pf okMission okInterrupt P) (hs : P s) : P s.toGround := by
  have hl := h.ground _ (h.leave hs)
  rw [leave_ctx,leave_log] at hl
  exact hl

theorem onRestart (h : StepRule pf okMission okInterrupt P) (hs : P s) : P s.onRestart := by
  have hl := h.restart _ (h.leave hs)
  rw [leave_ctx,leave_log] at hl
  exact hl

theorem groundOrHover (h : StepRule pf okMission okInterrupt P) (hs : P s) :
    P s.groundOrHover := by
  dsimp only [Engine.groundOrHover]
  split
  · exact h.goto hs rfl
  · exact h.toGround hs

theorem answerTakeoff (h : StepRule pf okMission okInterrupt P) (hs : P s) (event : Option ℕ)
    (result : Except String String) : P (s.answerTakeoff event result) := by
  cases event with
  | none => exact hs
  | some id => exact h.answer _ _ _ hs

theorem enterTakeoff (h : StepRule pf okMission okInterrupt P) (hs : P s) (event : Option ℕ)
    (alt : R) : P (s.enterTakeoff event alt) := by
  dsimp only [Engine.enterTakeoff]
  split
  · have hl := h.takeoff _ event alt { s.ctx.posEnu with z := alt } (h.leave hs)
    rw [leave_ctx,leave_log] at hl
    exact h.answerTakeoff hl _ _
  · exact h.groundOrHover (h.answerTakeoff (h.goto hs rfl) _ _)

theorem enterMission (h : StepRule pf okMission okInterrupt P) (hs : P s)
    {m : AcceptedMission R} (hm : okMission m) : P (s.enterMission pf m) := by
  have hskip : ∀ a : Active R,a.isWaypoint=false → P (({ s with
      ctx := { s.ctx with missionHomeEnu := homeAfter m.event s.ctx.posEnu s.ctx.missionHomeEnu }
      log := .missionEntered m.event s.ctx.posEnu::s.log }).goto a) := by
    intro a ha
    have hl := h.skip _ m a hm ha (h.leave hs)
    rw [leave_ctx,leave_log] at hl
    rw [goto_with]
    exact hl
  unfold Engine.enterMission
  dsimp only
  split
  · rename_i w hw
    have hl := h.fly _ m w hm hw (h.leave hs)
    rw [leave_ctx,leave_log] at hl
    dsimp only [Engine.enterLifting]
    rw [if_pos (missionEntry_inRange hw),goto_with]
    exact hl
  · exact hskip _ rfl
  · exact hskip _ rfl
  · rename_i hthrows
    exact absurd hthrows (missionEntry_ne_throws m.resolved)

theorem interrupted (h : StepRule pf okMission okInterrupt P) (hs : P s)
    (hok : ∀ w c,s.active=.waypoint w c → okInterrupt w c) (x : Excursion R) :
    P (s.interrupt x) := by
  dsimp only [Engine.interrupt]
  split
  · rename_i w c hw
    have hl := h.interrupt _ w c x (by rw [leave_active,hw]) (hok w c hw) (h.leave hs)
    exact hl
  · exact h.goto hs rfl

theorem resumed (h : StepRule pf okMission okInterrupt P) (hs : P s)
    (hin : ∀ w c,s.active=.waypoint w c → w.InRange ∧ ∃ x,c=.excursion x) : P s.resume := by
  dsimp only [Engine.resume]
  split
  · rename_i w c hw
    obtain ⟨hrange,x,rfl⟩ := hin w c hw
    dsimp only [Engine.enterLifting]
    rw [if_pos hrange]
    exact h.resume _ w x (by rw [leave_active,hw]) hrange (h.leave hs)
  · exact h.goto hs rfl

theorem enterExcute (h : StepRule pf okMission okInterrupt P) (hs : P s) {w : WaypointState R}
    (hw : s.active=.waypoint w .lifting) (hin : w.InRange) : P (s.enterExcute pf w) := by
  have hl := h.excute _ w (by rw [leave_active,hw]) hin (h.leave hs)
  dsimp only [Engine.enterExcute]
  rw [if_pos hin]
  rw [leave_log] at hl
  exact hl

variable [Field R]

theorem moveTo (h : StepRule pf okMission okInterrupt P) (hs : P s)
    (hok : ∀ w c,s.active=.waypoint w c → okInterrupt w c) (e : SetPosVelEvent R) :
    P (s.moveTo pf e) := by
  obtain ⟨kept,heq|heq|heq⟩ := moveTo_cases pf s e <;> rw [heq]
  · exact h.interrupted hs hok _
  · exact h.quiet _ _ rfl (h.interrupted hs hok _)
  · exact h.quiet _ _ rfl (h.interrupted hs hok _)

omit [Field R] in
theorem enterUnder (h : StepRule pf okMission okInterrupt P) (hs : P s) {parent : Parent}
    {enter : Engine R → Engine R}
    (henter : ∀ t,P t → (∀ w c,t.active=.waypoint w c → okInterrupt w c) → P (enter t))
    (hok : parent=.waypoint → ∀ w c,s.active=.waypoint w c → okInterrupt w c) :
    P (s.enterUnder parent enter) := by
  dsimp only [Engine.enterUnder]
  split
  · exact henter _ hs (hok rfl)
  · exact h.quiet _ _ rfl hs
  · exact henter _ (h.goto hs rfl) (fun w c hc => (nomatch hc))

/-- Entering a planned state. -/
theorem enterTarget (h : StepRule pf okMission okInterrupt P) (hs : P s) {p : Planned R}
    (hm : ∀ m,p.target=.mission m → okMission m)
    (hok : p.target.needsMission=true → ∀ w c,s.active=.waypoint w c → okInterrupt w c) :
    P (s.enterTarget pf p) := by
  dsimp only [Engine.enterTarget]
  split
  · exact h.enterTakeoff (h.quiet _ _ rfl hs) _ _
  · rename_i m hp
    exact h.enterMission (h.quiet _ _ rfl hs) (hm m hp)
  · rename_i parent e hp
    refine h.enterUnder hs (fun t ht htok => h.moveTo ht htok e) (fun hpar => hok ?_)
    rw [hp,hpar]
    rfl
  · rename_i parent hp
    refine h.enterUnder hs (fun t ht htok => h.interrupted ht htok _) (fun hpar => hok ?_)
    rw [hp,hpar]
    rfl

/-- Stepping to a state, with or without arming first. -/
theorem request (h : StepRule pf okMission okInterrupt P) (hs : P s) {p : Planned R}
    (hm : ∀ m,p.target=.mission m → okMission m)
    (hok : p.target.needsMission=true → ∀ w c,s.active=.waypoint w c → okInterrupt w c) :
    P (s.request pf p) := by
  dsimp only [Engine.request]
  split
  · exact h.plan _ _ _ (h.goto hs rfl)
  · exact h.enterTarget hs hm hok

/-- Running the front of the queue. -/
theorem advance (h : StepRule pf okMission okInterrupt P) (hs : P s)
    (hm : Queued okMission s)
    (hok : ∀ p∈s.queue.head?,p.target.needsMission=true →
      ∀ w c,s.active=.waypoint w c → okInterrupt w c) : P (s.advance pf) := by
  dsimp only [Engine.advance]
  split
  · rename_i p rest hq
    refine h.request (h.plan s rest s.fallback hs) (hm p (by rw [hq]; exact List.mem_cons_self)) ?_
    exact hok p (by rw [hq]; rfl)
  · split
    · exact h.goto hs rfl
    · exact h.goto hs rfl
    · exact hs

/-- An arrival. -/
theorem arrive (h : StepRule pf okMission okInterrupt P) (hs : P s) {w : WaypointState R}
    (hw : s.active=.waypoint w .excute) (hin : w.InRange) (hm : Queued okMission s)
    (halone : ∀ p∈s.queue,p.target.needsMission=false) : P (s.arrive pf w) := by
  unfold Engine.arrive
  dsimp only
  split
  · rename_i hfin
    refine h.advance (h.finish _ w hw hin ((w.arrival_eq_finish_iff).mp hfin) hs) hm ?_
    intro p hp hneeds
    rw [halone p (List.mem_of_mem_head? hp)] at hneeds
    cases hneeds
  · rename_i hlift
    have hin' : w.advance.InRange := by
      by_contra hout
      rw [(w.arrival_eq_finish_iff).mpr hout] at hlift
      cases hlift
    dsimp only [Engine.enterLifting]
    rw [if_pos hin']
    exact h.lift _ w hw hin' hs
  · rename_i hfly
    have hin' : w.advance.InRange := by
      by_contra hout
      rw [(w.arrival_eq_finish_iff).mpr hout] at hfly
      cases hfly
    dsimp only [Engine.enterExcute]
    rw [if_pos hin']
    exact h.next _ w hw hin' hs

/-- A tick of an interruption. -/
theorem excursionTick (h : StepRule pf okMission okInterrupt P) (hs : P s)
    (hin : ∀ w c,s.active=.waypoint w c → w.InRange ∧ ∃ x,c=.excursion x) (x : Excursion R)
    (o : TickObs) : P (s.excursionTick pf x o) := by
  have hok : ∀ w c,s.active=.waypoint w c → okInterrupt w c := by
    intro w c hc
    obtain ⟨_,y,rfl⟩ := hin w c hc
    exact h.again w y
  rcases excursionTick_cases pf s x o with heq|⟨e,heq⟩|heq|heq <;> rw [heq]
  · exact hs
  · exact h.interrupted hs hok _
  · exact h.resumed hs hin
  · exact h.quiet _ _ rfl hs

/-- A tick of a takeoff. -/
theorem takeoffTick (h : StepRule pf okMission okInterrupt P) (hs : P s)
    {event : Option ℕ} {settled : Bool} {alt : R} (ha : s.active=.takeoff event settled alt)
    (hm : Queued okMission s) (o : TickObs) : P (s.takeoffTick pf event settled alt o) := by
  dsimp only [Engine.takeoffTick]
  split_ifs
  · exact h.groundOrHover (h.answerTakeoff (h.settle _ (.takeoff event true alt) rfl hs) _ _)
  · exact h.toGround hs
  all_goals first
    | exact h.advance hs hm (fun p _ _ w c hc => by rw [ha] at hc; cases hc)
    | exact hs

/-- A tick of the active state. -/
theorem tick (h : StepRule pf okMission okInterrupt P) (hs : P s)
    (hin : ∀ w c,s.active=.waypoint w c → w.InRange)
    (halone : s.active.isWaypoint=true → ∀ p∈s.queue,p.target.needsMission=false)
    (hm : Queued okMission s) (o : TickObs) : P (s.tick pf o) := by
  dsimp only [Engine.tick]
  split
  · split
    · exact h.groundOrHover hs
    · exact hs
  · split
    · exact h.goto hs rfl
    · exact hs
  · split
    · exact h.groundOrHover (h.plan s _ s.fallback hs)
    · exact hs
  · exact hs
  · rename_i x ha
    exact h.excursionTick hs (fun w c hc => by rw [ha] at hc; cases hc) x o
  · rename_i event settled alt ha
    exact h.takeoffTick hs ha hm o
  · split
    · exact h.toGround hs
    · exact hs
  · rename_i w ha
    split
    · exact h.enterExcute hs ha (hin w _ ha)
    · exact hs
  · rename_i w ha
    split
    · exact h.arrive hs ha (hin w _ ha) hm (halone (by rw [ha]; rfl))
    · exact hs
  · rename_i w x ha
    refine h.excursionTick hs (fun w' c hc => ?_) x o
    have hrange := hin w' c hc
    rw [ha] at hc
    cases hc
    exact ⟨hrange,x,rfl⟩

omit [Field R] in
theorem listenerTick (h : StepRule pf okMission okInterrupt P) (hs : P s) : P s.listenerTick := by
  rcases listenerTick_cases s with heq|heq <;> rw [heq]
  · exact hs
  · exact h.toGround hs

theorem onTakeoff (h : StepRule pf okMission okInterrupt P) (hs : P s) (id : ℕ) (alt : R) :
    P (s.onTakeoff pf id alt) := by
  dsimp only [Engine.onTakeoff]
  split
  · exact h.answer _ _ _ hs
  · refine h.advance (h.plan s _ _ hs) ?_ ?_
    · intro p hp m hpm
      rw [List.mem_singleton.mp hp] at hpm
      cases hpm
    · intro p hp hneeds
      obtain rfl := Option.mem_some.mp hp
      cases hneeds

theorem startMission (h : StepRule pf okMission okInterrupt P) (hs : P s)
    (e : SetWaypointEvent R) {m : AcceptedMission R} (hm : okMission m) :
    P (s.startMission pf e m) := by
  dsimp only [Engine.startMission]
  split
  · exact h.goto hs rfl
  · refine h.advance (h.plan s _ _ hs) ?_ ?_
    · intro p hp m' hpm
      obtain rfl : m=m' := mission_of_mem_missionPlan hp hpm
      exact hm
    · intro p hp hneeds
      rw [needsMission_of_mem_missionPlan (List.mem_of_mem_head? hp)] at hneeds
      cases hneeds

/-- A mission request. -/
theorem onSetWaypoint (h : StepRule pf okMission okInterrupt P) (hs : P s) (id : ℕ)
    {e : SetWaypointEvent R} (hsub : Submits pf okMission s (.setWaypoint id e)) :
    P (s.onSetWaypoint pf id e) := by
  dsimp only [Engine.onSetWaypoint]
  split
  · exact h.answer _ _ _ hs
  · rename_i accepted hacc
    exact h.answer _ _ _ (h.startMission hs e (hsub ⟨accepted,_⟩ hacc))

/-- A point command. -/
theorem onSetPosVel (h : StepRule pf okMission okInterrupt P) (hs : P s)
    (hm : Queued okMission s) (id : ℕ) (e : SetPosVelEvent R)
    (hok : ∀ w c,s.active=.waypoint w c → okInterrupt w c) : P (s.onSetPosVel pf id e) := by
  have hqueue : ∀ (parent : Parent),Queued okMission
      { s with queue := s.queue++[(⟨.posVel parent e,false⟩ : Planned R)] } := by
    intro parent p hp m hpm
    rcases List.mem_append.mp hp with hold|hnew
    · exact hm p hold m hpm
    · rw [List.mem_singleton.mp hnew] at hpm
      cases hpm
  have hresolve : ∀ t,P t → P (resolveStarted id s t) :=
    fun t ht => resolveStarted_keeps id s t ht (h.answer t id _ ht)
  dsimp only [Engine.onSetPosVel]
  split
  · exact h.moveTo (h.answer _ _ _ hs) hok e
  · exact hresolve _ (h.advance (h.plan s _ s.fallback hs) (hqueue .waypoint)
      (fun p _ _ w c hc => hok w c hc))
  · rename_i x ha
    exact hresolve _ (h.advance (h.plan s _ _ hs) (hqueue .hover)
      (fun p _ _ w c hc => hok w c hc))
  · exact h.answer _ _ _ hs

omit [Field R] in
theorem onLand (h : StepRule pf okMission okInterrupt P) (hs : P s) (id : ℕ) (doPland : Bool) :
    P (s.onLand id doPland) := by
  dsimp only [Engine.onLand]
  split
  · exact h.answer _ _ _ hs
  · exact h.goto (h.answer _ _ _ hs) rfl

/-- A detected target. -/
theorem onDetect (h : StepRule pf okMission okInterrupt P) (hs : P s) (cooling : Bool)
    (hok : cooling=false → ∀ w c,s.active=.waypoint w c → okInterrupt w c) :
    P (s.onDetect pf cooling) := by
  rcases onDetect_cases pf s cooling with heq|⟨hcool,parent,_,heq⟩ <;> rw [heq]
  · exact hs
  · exact h.request hs (fun m hm => (nomatch hm)) (fun _ => hok hcool)

omit [Field R] in
theorem onStopFollow (h : StepRule pf okMission okInterrupt P) (hs : P s)
    (hin : ∀ w c,s.active=.waypoint w c → w.InRange) (id : ℕ) : P (s.onStopFollow id) := by
  dsimp only [Engine.onStopFollow]
  split
  · rename_i hfollow
    refine h.resumed (h.answer _ _ _ hs) (fun w c hc => ?_)
    rw [answer_active] at hc
    refine ⟨hin w c hc,?_⟩
    rw [hc] at hfollow
    cases c with
    | excursion x => exact ⟨x,rfl⟩
    | lifting => cases hfollow
    | excute => cases hfollow
  · exact h.answer _ _ _ hs

omit [Field R] in
theorem onLoiter (h : StepRule pf okMission okInterrupt P) (hs : P s) (id : ℕ) :
    P (s.onLoiter id) := by
  dsimp only [Engine.onLoiter]
  split
  · exact h.answer _ _ _ (h.answer _ _ _ (h.goto hs rfl))
  · exact h.answer _ _ _ hs

theorem onArm (h : StepRule pf okMission okInterrupt P) (hs : P s) (hm : Queued okMission s)
    (armed : Bool) : P (s.onArm pf armed) := by
  rcases onArm_cases pf s armed with heq|⟨ha,heq⟩ <;> rw [heq]
  · exact hs
  · exact h.advance hs hm (fun p _ _ w c hc => by rw [ha] at hc; cases hc)

omit [Field R] in
theorem onStatusText (h : StepRule pf okMission okInterrupt P) (hs : P s) (text : String) :
    P (s.onStatusText pf text) := by
  rcases onStatusText_cases pf s text with heq|⟨_,heq⟩ <;> rw [heq]
  · exact hs
  · exact h.groundOrHover (h.plan s _ s.fallback hs)

/-- Every step keeps a property that every elementary change keeps, in a state
whose mission is in range and whose queue needs no mission in progress. -/
theorem step (h : StepRule pf okMission okInterrupt P) (hs : P s) (l : Label R)
    (hin : ∀ w c,s.active=.waypoint w c → w.InRange)
    (halone : s.active.isWaypoint=true → ∀ p∈s.queue,p.target.needsMission=false)
    (hm : Queued okMission s) (hsub : Submits pf okMission s l)
    (hok : l.interrupts=true → ∀ w c,s.active=.waypoint w c → okInterrupt w c) :
    P (Engine.step pf s l) := by
  cases l with
  | sense x => exact h.sense s x hs
  | listenerTick => exact h.listenerTick hs
  | tick o => exact h.tick hs hin halone hm o
  | takeoffEvent id alt => exact h.onTakeoff hs id alt
  | setWaypoint id e => exact h.onSetWaypoint hs id hsub
  | setPosVel id e => exact h.onSetPosVel hs hm id e (hok rfl)
  | landEvent id doPland => exact h.onLand hs id doPland
  | restart => exact h.onRestart hs
  | armEvent armed => exact h.onArm hs hm armed
  | statusText text => exact h.onStatusText hs text
  | detect cooling =>
    refine h.onDetect hs cooling (fun hc => hok ?_)
    rw [hc]
    rfl
  | stopFollow id => exact h.onStopFollow hs hin id
  | loiter id => exact h.onLoiter hs id

end StepRule

end Dankong.Flight

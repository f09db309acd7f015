import Dankong.EngineQueue

/-!
# Plans abandoned by a failed arming

When arming gives up, the takeoff or mission behind it stays in the queue. New
takeoff and mission requests clear the queue, but a point command in hovering
adds to it and runs its front. An abandoned plan is never run as long as no such
command comes while it is still queued.
-/

namespace Dankong.Flight

open Engine Runs

variable {R : Type*}

/-- Takeoffs and missions entered so far, latest first. -/
def plansRun : List (Output R) → List (Planned R)
  | [] => []
  | .ran p::log => p::plansRun log
  | _::log => plansRun log

/-- Every entry in the outputs is recorded. -/
theorem mem_plansRun {p : Planned R} {log : List (Output R)} (hp : .ran p∈log) :
    p∈plansRun log := by
  induction log with
  | nil => cases hp
  | cons o log ih =>
    rcases List.mem_cons.mp hp with rfl|hrest
    · exact List.mem_cons_self
    · have hmem := ih hrest
      cases o with
      | ran q => exact List.mem_cons_of_mem _ hmem
      | _ => exact hmem

/-- Nothing planned is abandoned. -/
def AllFresh (plans : List (Planned R)) : Prop := ∀ p∈plans,p.abandoned=false

/-- The front of the queue is not abandoned, and nothing behind it is if it leads
to a takeoff or a mission. -/
def FrontFresh : List (Planned R) → Prop
  | [] => True
  | p::rest => p.abandoned=false ∧
      (p.target.isPlan=true ∨ p.target.needsMission=true → AllFresh rest)

/-- A state that runs the front of the queue when it ends. -/
def Active.runsQueue : Active R → Bool
  | .takeoff .. => true
  | .waypoint .. => true
  | _ => false

/-- A state whose end leaves the queue alone. -/
def Active.isIdle : Active R → Bool
  | .init => true
  | .ground => true
  | .hover _ => true
  | .land _ => true
  | _ => false

/-- A queue without abandoned plans has a fresh front. -/
theorem frontFresh_of_allFresh {queue : List (Planned R)} (h : AllFresh queue) :
    FrontFresh queue := by
  cases queue with
  | nil => exact trivial
  | cons p rest =>
    exact ⟨h p List.mem_cons_self,fun _ q hq => h q (List.mem_cons_of_mem _ hq)⟩

/-- The plan of a mission is fresh. -/
theorem allFresh_missionPlan (isGround : Bool) (alt : R) (m : AcceptedMission R) :
    AllFresh (missionPlan isGround alt m) := by
  intro p hp
  dsimp only [missionPlan] at hp
  split at hp
  · rcases List.mem_cons.mp hp with rfl|hp
    · rfl
    · rw [List.mem_singleton.mp hp]
  · rw [List.mem_singleton.mp hp]

/-- Something fresh may be added behind a fresh queue. -/
theorem allFresh_append {queue : List (Planned R)} (h : AllFresh queue) (t : Target R) :
    AllFresh (queue++[⟨t,false⟩]) := by
  intro p hp
  rcases List.mem_append.mp hp with hp|hp
  · exact h p hp
  · rw [List.mem_singleton.mp hp]

namespace Engine

section

variable (s : Engine R)

theorem groundOrHover_plansRun : plansRun s.groundOrHover.log=plansRun s.log := by
  dsimp only [groundOrHover]
  split
  · rw [goto_log]
  · rfl

theorem groundOrHover_isIdle : s.groundOrHover.active.isIdle=true := by
  dsimp only [groundOrHover]
  split <;> rfl

theorem enterTakeoff_plansRun (event : Option ℕ) (alt : R) :
    plansRun (s.enterTakeoff event alt).log=plansRun s.log := by
  dsimp only [enterTakeoff]
  split
  · rw [answerTakeoff_log]
    rfl
  · rw [groundOrHover_plansRun,answerTakeoff_log,goto_log]

theorem enterLifting_plansRun (w : WaypointState R) :
    plansRun (s.enterLifting w).log=plansRun s.log := by
  dsimp only [enterLifting]
  split
  · rw [goto_log]
  · rw [emit_log,goto_log]
    rfl

theorem enterExcute_plansRun (pf : Platform R) (w : WaypointState R) :
    plansRun (s.enterExcute pf w).log=plansRun s.log := by
  dsimp only [enterExcute]
  split
  · exact excuteOutputs_ignored _ (fun o log ho => by cases o <;> first | rfl | cases ho) pf w _
  · rw [emit_log,goto_log]
    rfl

theorem enterMission_plansRun (pf : Platform R) (m : AcceptedMission R) :
    plansRun (s.enterMission pf m).log=plansRun s.log := by
  unfold enterMission
  dsimp only
  split
  · rw [enterLifting_plansRun]
    rfl
  · rw [goto_log]
    rfl
  · rw [goto_log]
    rfl
  · rfl

theorem interrupt_log (x : Excursion R) : (s.interrupt x).log=s.log := by
  dsimp only [interrupt]
  split <;> rw [goto_log]

theorem resume_plansRun : plansRun s.resume.log=plansRun s.log := by
  dsimp only [resume]
  split
  · exact enterLifting_plansRun s _
  · rw [goto_log]

variable [Field R]

theorem moveTo_plansRun (pf : Platform R) (e : SetPosVelEvent R) :
    plansRun (s.moveTo pf e).log=plansRun s.log := by
  obtain ⟨kept,heq|heq|heq⟩ := moveTo_cases pf s e <;> rw [heq]
  · rw [interrupt_log]
  · rw [emit_log,interrupt_log]
    rfl
  · rw [emit_log,interrupt_log]
    rfl

/-- Entering a planned state records it if it is a takeoff or a mission. -/
theorem enterTarget_plansRun (pf : Platform R) (p : Planned R) :
    plansRun (s.enterTarget pf p).log=
      if p.target.isPlan=true then p::plansRun s.log else plansRun s.log := by
  unfold enterTarget enterUnder
  cases hp : p.target with
  | takeoff event alt =>
    dsimp only
    rw [enterTakeoff_plansRun]
    rfl
  | mission m =>
    dsimp only
    rw [enterMission_plansRun]
    rfl
  | posVel parent e =>
    dsimp only
    split
    · exact moveTo_plansRun s pf e
    · rfl
    · rw [moveTo_plansRun,goto_log]
      rfl
  | follow parent =>
    dsimp only
    split
    · rw [interrupt_log]
      rfl
    · rfl
    · rw [interrupt_log,goto_log]
      rfl

end

end Engine

/-- Run invariant: no abandoned plan has been run, and none is queued where the
end of the active state would run it. -/
structure Untouched (s : Engine R) : Prop where
  /-- No abandoned takeoff or mission has been entered. -/
  ran : AllFresh (plansRun s.log)
  /-- Takeoffs and missions have fresh queues. -/
  flying : s.active.runsQueue=true → AllFresh s.queue
  /-- Arming has a fresh front behind it. -/
  arming : s.active=.arm → FrontFresh s.queue

/-- In a state that does not run the queue, only the record matters. -/
theorem untouched_of_settled {s : Engine R} (h : AllFresh (plansRun s.log))
    (ha : s.active.isIdle=true) : Untouched s := by
  refine ⟨h,fun hfly => ?_,fun harm => ?_⟩
  · cases hactive : s.active <;> rw [hactive] at ha hfly
    all_goals first | exact absurd ha Bool.false_ne_true | exact absurd hfly Bool.false_ne_true
  · rw [harm] at ha
    cases ha

/-- With a fresh queue, only the record matters. -/
theorem untouched_of_allFresh {s : Engine R} (h : AllFresh (plansRun s.log))
    (hq : AllFresh s.queue) : Untouched s :=
  ⟨h,fun _ => hq,fun _ => frontFresh_of_allFresh hq⟩

namespace Engine

variable {s : Engine R}

/-- An interruption runs no plan. -/
theorem untouched_interrupt (h : Untouched s) (x : Excursion R) : Untouched (s.interrupt x) := by
  have hran : AllFresh (plansRun (s.interrupt x).log) := by
    rw [interrupt_log]
    exact h.ran
  rcases interrupt_active (s:=s) x with ⟨w,c,hw,hx⟩|⟨_,hx⟩
  · refine untouched_of_allFresh hran ?_
    rw [interrupt_queue]
    exact h.flying (by rw [hw]; rfl)
  · exact untouched_of_settled hran (by rw [hx]; rfl)

/-- The end of an interruption runs no plan. -/
theorem untouched_resume (h : Untouched s) : Untouched s.resume := by
  have hran : AllFresh (plansRun s.resume.log) := by
    rw [resume_plansRun]
    exact h.ran
  cases ha : s.active with
  | waypoint w c =>
    refine untouched_of_allFresh hran ?_
    rw [resume_queue]
    exact h.flying (by rw [ha]; rfl)
  | _ =>
    refine untouched_of_settled hran ?_
    dsimp only [resume]
    rw [ha]
    exact rfl

variable [Field R] {pf : Platform R}

theorem untouched_moveTo (h : Untouched s) (e : SetPosVelEvent R) :
    Untouched (s.moveTo pf e) := by
  have hx := fun kept => untouched_interrupt h (.posVel kept .move)
  obtain ⟨kept,heq|heq|heq⟩ := moveTo_cases pf s e <;> rw [heq]
  · exact hx kept
  · exact ⟨(hx kept).ran,(hx kept).flying,(hx kept).arming⟩
  · exact ⟨(hx kept).ran,(hx kept).flying,(hx kept).arming⟩

/-- Entering a fresh planned state runs no abandoned plan. -/
theorem untouched_enterTarget {p : Planned R} (hran : AllFresh (plansRun s.log))
    (hfront : FrontFresh (p::s.queue)) : Untouched (s.enterTarget pf p) := by
  have hran' : AllFresh (plansRun (s.enterTarget pf p).log) := by
    rw [enterTarget_plansRun]
    split
    · intro q hq
      rcases List.mem_cons.mp hq with rfl|hq
      · exact hfront.1
      · exact hran q hq
    · exact hran
  by_cases hleads : p.target.isPlan=true ∨ p.target.needsMission=true
  · refine untouched_of_allFresh hran' ?_
    rw [enterTarget_queue]
    exact hfront.2 hleads
  · refine untouched_of_settled hran' ?_
    dsimp only [enterTarget]
    cases hp : p.target with
    | takeoff event alt => exact absurd (Or.inl (by rw [hp]; rfl)) hleads
    | mission m => exact absurd (Or.inl (by rw [hp]; rfl)) hleads
    | posVel parent e =>
      cases parent with
      | waypoint => exact absurd (Or.inr (by rw [hp]; rfl)) hleads
      | hover =>
        obtain ⟨kept,hkept⟩ := moveTo_active (s.goto (.hover none)) pf e
        dsimp only [enterUnder]
        rw [hkept]
        exact rfl
    | follow parent =>
      cases parent with
      | waypoint => exact absurd (Or.inr (by rw [hp]; rfl)) hleads
      | hover => exact rfl

/-- Stepping to a fresh planned state runs no abandoned plan. -/
theorem untouched_request {p : Planned R} (hran : AllFresh (plansRun s.log))
    (hfront : FrontFresh (p::s.queue)) : Untouched (s.request pf p) := by
  dsimp only [request]
  split
  · refine ⟨?_,fun hfly => (nomatch hfly),fun _ => hfront⟩
    dsimp only
    rw [goto_log]
    exact hran
  · exact untouched_enterTarget hran hfront

/-- Running a fresh front runs no abandoned plan. -/
theorem untouched_advance (hran : AllFresh (plansRun s.log)) (hfront : FrontFresh s.queue) :
    Untouched (s.advance pf) := by
  dsimp only [advance]
  split
  · rename_i p rest hq
    rw [hq] at hfront
    exact untouched_request hran hfront
  · rename_i hq
    have hgoto : ∀ a : Active R,Untouched (s.goto a) := by
      intro a
      refine untouched_of_allFresh (by rw [goto_log]; exact hran) ?_
      rw [goto_queue,hq]
      exact fun p hp => (nomatch hp)
    split
    · exact hgoto _
    · exact hgoto _
    · refine untouched_of_allFresh hran ?_
      rw [hq]
      exact fun p hp => (nomatch hp)

theorem untouched_excursionTick (h : Untouched s) (x : Excursion R) (o : TickObs) :
    Untouched (s.excursionTick pf x o) := by
  rcases excursionTick_cases pf s x o with heq|⟨e,heq⟩|heq|heq <;> rw [heq]
  · exact h
  · exact untouched_interrupt h _
  · exact untouched_resume h
  · exact ⟨h.ran,h.flying,h.arming⟩

/-- A tick of the active state runs no abandoned plan. -/
theorem untouched_tick (h : Untouched s) (o : TickObs) : Untouched (s.tick pf o) := by
  have hgh : ∀ t : Engine R,plansRun t.log=plansRun s.log → Untouched t.groundOrHover := by
    intro t ht
    refine untouched_of_settled ?_ (groundOrHover_isIdle t)
    rw [groundOrHover_plansRun,ht]
    exact h.ran
  have hground : Untouched s.toGround :=
    untouched_of_settled h.ran rfl
  dsimp only [tick]
  split
  · split
    · exact hgh s rfl
    · exact h
  · split
    · exact untouched_of_settled (by rw [goto_log]; exact h.ran) rfl
    · exact h
  · split
    · exact hgh _ rfl
    · exact h
  · exact h
  · exact untouched_excursionTick h _ o
  · rename_i event settled alt ha
    have hq : AllFresh s.queue := h.flying (by rw [ha]; rfl)
    dsimp only [takeoffTick]
    split_ifs
    · exact hgh _ (by rw [answerTakeoff_log])
    · exact hground
    all_goals first
      | exact untouched_advance h.ran (frontFresh_of_allFresh hq)
      | exact h
  · split
    · exact hground
    · exact h
  · rename_i w ha
    have hq : AllFresh s.queue := h.flying (by rw [ha]; rfl)
    split
    · refine untouched_of_allFresh ?_ (by rw [enterExcute_queue]; exact hq)
      rw [enterExcute_plansRun]
      exact h.ran
    · exact h
  · rename_i w ha
    have hq : AllFresh s.queue := h.flying (by rw [ha]; rfl)
    split
    · unfold arrive
      dsimp only
      split
      · exact untouched_advance h.ran (frontFresh_of_allFresh hq)
      · refine untouched_of_allFresh ?_ (by rw [enterLifting_queue]; exact hq)
        rw [enterLifting_plansRun]
        exact h.ran
      · refine untouched_of_allFresh ?_ (by rw [enterExcute_queue]; exact hq)
        rw [enterExcute_plansRun]
        exact h.ran
    · exact h
  · exact untouched_excursionTick h _ o

/-- Guard: no point command runs the queue from hovering while an abandoned plan
is in it. -/
def KeepsAbandoned (s : Engine R) : Label R → Prop
  | .setPosVel _ _ => ∀ x,s.active=.hover x → (∀ e child,x≠some (.posVel e child)) →
      AllFresh s.queue
  | _ => True

/-- A guarded point command runs no abandoned plan. -/
theorem untouched_onSetPosVel (h : Untouched s) {id : ℕ} {e : SetPosVelEvent R}
    (hok : KeepsAbandoned s (.setPosVel id e)) : Untouched (s.onSetPosVel pf id e) := by
  have hanswer : ∀ {t : Engine R} {result},Untouched t → Untouched (t.answer id result) :=
    fun ht => ⟨ht.ran,ht.flying,ht.arming⟩
  have hresolve : ∀ t,Untouched t → Untouched (resolveStarted id s t) :=
    fun t ht => resolveStarted_keeps id s t ht (hanswer ht)
  dsimp only [onSetPosVel]
  split
  · exact untouched_moveTo (hanswer h) e
  · rename_i w c hw _
    have hq : AllFresh s.queue := h.flying (by rw [hw]; rfl)
    exact hresolve _ (untouched_advance h.ran (frontFresh_of_allFresh (allFresh_append hq _)))
  · rename_i x ha hx
    have hq : AllFresh s.queue := hok x ha fun e' child heq => by
      rw [ha,heq] at hx
      exact hx e' child rfl
    exact hresolve _ (untouched_advance h.ran (frontFresh_of_allFresh (allFresh_append hq _)))
  · exact hanswer h

/-- Every guarded step runs no abandoned plan. -/
theorem untouched_step (pf : Platform R) (s : Engine R) (l : Label R) (h : Untouched s)
    (hok : KeepsAbandoned s l) : Untouched (step pf s l) := by
  have hanswer : ∀ {t : Engine R} {id result},Untouched t → Untouched (t.answer id result) :=
    fun ht => ⟨ht.ran,ht.flying,ht.arming⟩
  have hgiveUp : Untouched s.giveUp := by
    refine untouched_of_settled ?_ (groundOrHover_isIdle _)
    dsimp only [giveUp]
    rw [groundOrHover_plansRun]
    exact h.ran
  cases l with
  | sense x => exact ⟨h.ran,h.flying,h.arming⟩
  | listenerTick =>
    have hground : Untouched s.toGround :=
      untouched_of_settled h.ran rfl
    dsimp only [step]
    rcases listenerTick_cases s with heq|heq <;> rw [heq]
    · exact h
    · exact hground
  | tick o => exact untouched_tick h o
  | takeoffEvent id alt =>
    dsimp only [step,onTakeoff]
    split
    · exact hanswer h
    · exact untouched_advance h.ran (frontFresh_of_allFresh fun p hp => by
        rw [List.mem_singleton.mp hp])
  | setWaypoint id e =>
    dsimp only [step,onSetWaypoint]
    split
    · exact hanswer h
    · refine hanswer ?_
      dsimp only [startMission]
      split
      · exact untouched_of_settled (by rw [goto_log]; exact h.ran) rfl
      · exact untouched_advance h.ran (frontFresh_of_allFresh (allFresh_missionPlan _ _ _))
  | setPosVel id e => exact untouched_onSetPosVel h hok
  | landEvent id doPland =>
    dsimp only [step,onLand]
    split
    · exact hanswer h
    · exact untouched_of_settled (by rw [goto_log]; exact h.ran) rfl
  | restart => exact untouched_of_settled h.ran rfl
  | armEvent armed =>
    dsimp only [step]
    rcases onArm_cases pf s armed with heq|⟨ha,heq⟩ <;> rw [heq]
    · exact h
    · exact untouched_advance h.ran (h.arming ha)
  | statusText text =>
    dsimp only [step]
    rcases onStatusText_cases pf s text with heq|⟨_,heq⟩ <;> rw [heq]
    · exact h
    · exact hgiveUp
  | detect cooling =>
    dsimp only [step]
    rcases onDetect_cases pf s cooling with heq|⟨_,parent,hparent,heq⟩ <;> rw [heq]
    · exact h
    · refine untouched_request h.ran ⟨rfl,fun hleads => ?_⟩
      cases parent with
      | hover => rcases hleads with hl|hl <;> cases hl
      | waypoint =>
        obtain ⟨w,c,hw⟩ := hparent rfl
        exact h.flying (by rw [hw]; rfl)
  | stopFollow id =>
    dsimp only [step,onStopFollow]
    split
    · exact untouched_resume (hanswer h)
    · exact hanswer h
  | loiter id =>
    dsimp only [step,onLoiter]
    split
    · exact hanswer (hanswer (untouched_of_settled (by rw [goto_log]; exact h.ran) rfl))
    · exact hanswer h

end Engine

/-- An arming that gives up abandons every takeoff and mission behind it. -/
theorem giveUp_abandons {s : Engine R} {p : Planned R} (hp : p∈s.giveUp.queue)
    (hplan : p.target.isPlan=true) : p.abandoned=true := by
  dsimp only [giveUp] at hp
  rw [groundOrHover_queue] at hp
  obtain ⟨q,_,rfl⟩ := List.mem_map.mp hp
  have hq : q.target.isPlan=true := hplan
  dsimp only [abandon]
  rw [hq,Bool.or_true]

/-- In every run in which no point command is accepted in hovering while an
abandoned plan is queued, no takeoff or mission is entered after an arming in
front of it has given up. -/
theorem abandoned_never_run [Field R] (pf : Platform R) (x : Sensors R) (labels : List (Label R))
    (hg : Guarded (step pf) KeepsAbandoned (initial x) labels) :
    ∀ p,.ran p∈(runFrom (step pf) (initial x) labels).log → p.abandoned=false := by
  have h : Untouched (runFrom (step pf) (initial x) labels) :=
    guarded_invariant (untouched_step pf) labels
      (untouched_of_settled (fun _ hp => (nomatch hp)) rfl) hg
  exact fun p hp => h.ran p (mem_plansRun hp)

/-- The platform of a vehicle that arms before it takes off. -/
def armingPlatform : Platform ℚ :=
  { calmPlatform with shouldArmBeforeEnter := fun flags => flags.isTakeoff }

/-- A takeoff on the ground whose arming times out, then a vehicle armed and
taken off by someone else. -/
def failedArming : List (Label ℚ) :=
  [.sense { hovering with arm := false, checkHover := false },.tick {},.takeoffEvent 0 10,
    .tick { timedOut := true },.sense hovering,.tick {}]

/-- The failed arming, a new takeoff request, its takeoff, and a point command. -/
def renewedTakeoff : List (Label ℚ) :=
  failedArming++[.takeoffEvent 1 10,.tick { atAltitude := true },.setPosVel 2 stayHere]

/-- After a new takeoff request the new takeoff runs, and no abandoned plan. -/
theorem renewed_takeoff_runs_fresh :
    .ran ⟨.takeoff (some 1) 10,false⟩∈
      (runFrom (step armingPlatform) (initial hovering) renewedTakeoff).log ∧
    ∀ p,.ran p∈(runFrom (step armingPlatform) (initial hovering) renewedTakeoff).log →
      p.abandoned=false := by
  refine ⟨?_,abandoned_never_run armingPlatform hovering renewedTakeoff
    ⟨trivial,trivial,trivial,trivial,trivial,trivial,trivial,trivial,?_,trivial⟩⟩
  · have hlog : ∃ latest rest,(runFrom (step armingPlatform) (initial hovering) renewedTakeoff).log=
        latest::.ran ⟨.takeoff (some 1) 10,false⟩::rest := ⟨_,_,rfl⟩
    obtain ⟨latest,rest,hrest⟩ := hlog
    rw [hrest]
    exact List.mem_cons_of_mem _ List.mem_cons_self
  · intro x _ _ p hp
    cases hp

/-- Without it, the point command enters the takeoff abandoned before, so a plan
abandoned by a failed arming may be run later. -/
theorem point_command_runs_abandoned :
    ¬∀ (pf : Platform ℚ) (x : Sensors ℚ) (labels : List (Label ℚ)),
      ∀ p,.ran p∈(runFrom (step pf) (initial x) labels).log → p.abandoned=false := by
  intro h
  have hlog : ∃ rest,(runFrom (step armingPlatform) (initial hovering)
      (failedArming++[.setPosVel 1 stayHere])).log=
        .takeoffStarted ⟨0,0,10⟩::.ran ⟨.takeoff (some 0) 10,true⟩::rest := ⟨_,rfl⟩
  obtain ⟨rest,hrest⟩ := hlog
  have habandoned := h armingPlatform hovering (failedArming++[.setPosVel 1 stayHere])
    ⟨.takeoff (some 0) 10,true⟩ (by
      rw [hrest]
      exact List.mem_cons_of_mem _ List.mem_cons_self)
  cases habandoned

end Dankong.Flight

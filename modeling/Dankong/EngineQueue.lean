import Dankong.EngineRules

/-!
# The plan queue along runs of the engine

What each operation leaves in the queue, and where a step can leave a mission
active. A queued mission is followed only by interruptions of hovering, so while
a mission is active the queue holds nothing that could enter it again, and the
end of the mission leads out of it. In every reachable state the current point
of an active mission is therefore in range.
-/

namespace Dankong.Flight

open Engine Runs

variable {R : Type*} {s : Engine R}

/-- An interruption of hovering, as opposed to a plan or an interruption of a mission. -/
def Target.isHoverBound (t : Target R) : Bool := !t.isPlan && !t.needsMission

/-- The target is a mission. -/
def Target.isMission : Target R → Bool
  | .mission _ => true
  | _ => false

namespace Engine

section

variable (s)

@[simp] theorem toGround_queue : s.toGround.queue=s.queue := goto_queue s .ground

@[simp] theorem toGround_fallback : s.toGround.fallback=s.fallback := goto_fallback s .ground

@[simp] theorem groundOrHover_queue : s.groundOrHover.queue=s.queue := by
  dsimp only [groundOrHover]
  split <;> simp

@[simp] theorem groundOrHover_fallback : s.groundOrHover.fallback=s.fallback := by
  dsimp only [groundOrHover]
  split <;> simp

@[simp] theorem groundOrHover_isWaypoint : s.groundOrHover.active.isWaypoint=false := by
  dsimp only [groundOrHover]
  split <;> rfl

@[simp] theorem interrupt_queue (x : Excursion R) : (s.interrupt x).queue=s.queue := by
  dsimp only [interrupt]
  split <;> simp

@[simp] theorem interrupt_fallback (x : Excursion R) : (s.interrupt x).fallback=s.fallback := by
  dsimp only [interrupt]
  split <;> simp

@[simp] theorem enterLifting_queue (w : WaypointState R) : (s.enterLifting w).queue=s.queue := by
  dsimp only [enterLifting]
  split <;> simp

@[simp] theorem enterLifting_fallback (w : WaypointState R) :
    (s.enterLifting w).fallback=s.fallback := by
  dsimp only [enterLifting]
  split <;> simp

@[simp] theorem enterLifting_active (w : WaypointState R) :
    (s.enterLifting w).active=.waypoint w .lifting := by
  dsimp only [enterLifting]
  split <;> rfl

@[simp] theorem resume_queue : s.resume.queue=s.queue := by
  dsimp only [resume]
  split <;> simp

@[simp] theorem enterExcute_queue (pf : Platform R) (w : WaypointState R) :
    (s.enterExcute pf w).queue=s.queue := by
  dsimp only [enterExcute]
  split <;> simp

@[simp] theorem enterExcute_fallback (pf : Platform R) (w : WaypointState R) :
    (s.enterExcute pf w).fallback=s.fallback := by
  dsimp only [enterExcute]
  split <;> simp

@[simp] theorem enterExcute_active (pf : Platform R) (w : WaypointState R) :
    (s.enterExcute pf w).active=.waypoint w .excute := by
  dsimp only [enterExcute]
  split <;> rfl

@[simp] theorem enterLifting_ctx (w : WaypointState R) : (s.enterLifting w).ctx=s.ctx := by
  dsimp only [enterLifting]
  split <;> simp

@[simp] theorem enterExcute_ctx (pf : Platform R) (w : WaypointState R) :
    (s.enterExcute pf w).ctx=s.ctx := by
  dsimp only [enterExcute]
  split <;> simp

@[simp] theorem enterTakeoff_queue (event : Option ℕ) (alt : R) :
    (s.enterTakeoff event alt).queue=s.queue := by
  dsimp only [enterTakeoff]
  split <;> simp

@[simp] theorem enterTakeoff_fallback (event : Option ℕ) (alt : R) :
    (s.enterTakeoff event alt).fallback=s.fallback := by
  dsimp only [enterTakeoff]
  split <;> simp

@[simp] theorem enterTakeoff_isWaypoint (event : Option ℕ) (alt : R) :
    (s.enterTakeoff event alt).active.isWaypoint=false := by
  dsimp only [enterTakeoff]
  split
  · rw [answerTakeoff_active]
    rfl
  · exact groundOrHover_isWaypoint _

@[simp] theorem enterMission_queue (pf : Platform R) (m : AcceptedMission R) :
    (s.enterMission pf m).queue=s.queue := by
  unfold enterMission
  dsimp only
  split <;> simp

@[simp] theorem enterMission_fallback (pf : Platform R) (m : AcceptedMission R) :
    (s.enterMission pf m).fallback=s.fallback := by
  unfold enterMission
  dsimp only
  split <;> simp

variable [Field R]

@[simp] theorem moveTo_queue (pf : Platform R) (e : SetPosVelEvent R) :
    (s.moveTo pf e).queue=s.queue := by
  obtain ⟨kept,heq|heq|heq⟩ := moveTo_cases pf s e <;> simp [heq]

@[simp] theorem moveTo_fallback (pf : Platform R) (e : SetPosVelEvent R) :
    (s.moveTo pf e).fallback=s.fallback := by
  obtain ⟨kept,heq|heq|heq⟩ := moveTo_cases pf s e <;> simp [heq]

/-- A point command that is entered is active, with its heading as it is kept. -/
theorem moveTo_active (pf : Platform R) (e : SetPosVelEvent R) :
    ∃ kept,(s.moveTo pf e).active=(s.interrupt (.posVel kept .move)).active := by
  obtain ⟨kept,heq|heq|heq⟩ := moveTo_cases pf s e
  · exact ⟨kept,by rw [heq]⟩
  · exact ⟨kept,by rw [heq,emit_active]⟩
  · exact ⟨kept,by rw [heq,emit_active]⟩

@[simp] theorem enterTarget_queue (pf : Platform R) (p : Planned R) :
    (s.enterTarget pf p).queue=s.queue := by
  unfold enterTarget enterUnder
  split
  · simp
  · simp
  all_goals split <;> simp

@[simp] theorem enterTarget_fallback (pf : Platform R) (p : Planned R) :
    (s.enterTarget pf p).fallback=s.fallback := by
  unfold enterTarget enterUnder
  split
  · simp
  · simp
  all_goals split <;> simp

end

/-- An interruption stays inside the mission in progress, if there is one. -/
theorem interrupt_active (x : Excursion R) :
    (∃ w c,s.active=.waypoint w c ∧ (s.interrupt x).active=.waypoint w (.excursion x)) ∨
    (s.active.isWaypoint=false ∧ (s.interrupt x).active=.hover (some x)) := by
  dsimp only [interrupt]
  split
  · rename_i w c hw
    exact Or.inl ⟨w,c,hw,rfl⟩
  · rename_i hnot
    refine Or.inr ⟨?_,rfl⟩
    cases ha : s.active with
    | waypoint w c => exact absurd ha (hnot w c)
    | _ => rfl

/-- Entering a mission leads into its first leg or out of any mission. -/
theorem enterMission_active (pf : Platform R) (m : AcceptedMission R) :
    (∃ w,missionEntry pf m.event=.fly w ∧ (s.enterMission pf m).active=.waypoint w .lifting) ∨
    (s.enterMission pf m).active.isWaypoint=false := by
  unfold enterMission
  dsimp only
  split
  · rename_i w hw
    exact Or.inl ⟨w,hw,enterLifting_active _ w⟩
  · exact Or.inr rfl
  · exact Or.inr rfl
  · rename_i hthrows
    exact absurd hthrows (missionEntry_ne_throws m.resolved)

variable [Field R]

/-- Where a planned state leads: out of any mission, into the first leg of a new
one, or to an interruption of the mission in progress. -/
theorem enterTarget_active (pf : Platform R) (p : Planned R) :
    (s.enterTarget pf p).active.isWaypoint=false ∨
    (∃ m w,p.target=.mission m ∧ missionEntry pf m.event=.fly w ∧
      (s.enterTarget pf p).active=.waypoint w .lifting) ∨
    (p.target.needsMission=true ∧ ∃ w c x,s.active=.waypoint w c ∧
      (s.enterTarget pf p).active=.waypoint w (.excursion x)) := by
  have hunder : ∀ (parent : Parent) (enter : Engine R → Engine R),
      (∀ t,∃ x,(enter t).active=(t.interrupt x).active) →
      (s.enterUnder parent enter).active.isWaypoint=false ∨
      (parent=.waypoint ∧ ∃ w c x,s.active=.waypoint w c ∧
        (s.enterUnder parent enter).active=.waypoint w (.excursion x)) := by
    intro parent enter henter
    dsimp only [enterUnder]
    split
    · rename_i w c hw
      obtain ⟨x,hinterrupt⟩ := henter s
      obtain ⟨w',c',hw',hx⟩|⟨hnot,_⟩ := interrupt_active (s:=s) x
      · exact Or.inr ⟨rfl,w',c',x,hw',hinterrupt.trans hx⟩
      · rw [hw] at hnot
        cases hnot
    · rename_i hnot
      refine Or.inl ?_
      rw [emit_active]
      cases ha : s.active with
      | waypoint w c => exact absurd ha (hnot w c)
      | _ => rfl
    · obtain ⟨x,hinterrupt⟩ := henter (s.goto (.hover none))
      refine Or.inl ?_
      rw [hinterrupt]
      rfl
  dsimp only [enterTarget]
  split
  · exact Or.inl (enterTakeoff_isWaypoint ..)
  · rename_i m hp
    rcases enterMission_active (s:=s.emit (.ran p)) pf m with ⟨w,hw,ha⟩|hnot
    · exact Or.inr (Or.inl ⟨m,w,hp,hw,ha⟩)
    · exact Or.inl hnot
  · rename_i parent e hp
    have hmove : ∀ t : Engine R,∃ x,(t.moveTo pf e).active=(t.interrupt x).active := fun t =>
      (moveTo_active t pf e).imp' (.posVel · .move) fun _ hkept => hkept
    rcases hunder parent (moveTo pf e) hmove with h|h
    · exact Or.inl h
    · obtain ⟨rfl,hx⟩ := h
      exact Or.inr (Or.inr ⟨by rw [hp]; rfl,hx⟩)
  · rename_i parent hp
    rcases hunder parent (interrupt .follow) (fun _ => ⟨.follow,rfl⟩) with h|h
    · exact Or.inl h
    · obtain ⟨rfl,hx⟩ := h
      exact Or.inr (Or.inr ⟨by rw [hp]; rfl,hx⟩)

end Engine

/-- A queued mission is followed by interruptions of hovering only, and has a
fallback behind it. -/
structure Orderly (queue : List (Planned R)) (fallback : Option Fallback) : Prop where
  /-- Nothing but interruptions of hovering follows a mission. -/
  last : queue.Pairwise fun p q => p.target.isMission=true → q.target.isHoverBound=true
  /-- A queued mission has a fallback. -/
  fallback : (∃ p∈queue,p.target.isMission=true) → fallback.isSome=true

/-- Run invariant of the queue and the active mission. -/
structure Disciplined (s : Engine R) : Prop where
  /-- The queue is orderly. -/
  orderly : Orderly s.queue s.fallback
  /-- An active mission is in range, with only interruptions of hovering queued
  and a fallback behind it. -/
  mission : ∀ w c,s.active=.waypoint w c → w.InRange ∧
    (∀ p∈s.queue,p.target.isHoverBound=true) ∧ s.fallback.isSome=true

/-- Outside a mission, an orderly queue is all there is to keep. -/
theorem disciplined_of_settled (h : Orderly s.queue s.fallback)
    (ha : s.active.isWaypoint=false) : Disciplined s :=
  ⟨h,fun w c hw => absurd hw (Active.ne_waypoint ha w c)⟩

/-- Interruptions of hovering are no missions. -/
theorem isMission_of_isHoverBound {t : Target R} (h : t.isHoverBound=true) :
    t.isMission=false := by
  cases t with
  | mission m => cases h
  | _ => rfl

/-- Interruptions of hovering need no mission. -/
theorem needsMission_of_isHoverBound {t : Target R} (h : t.isHoverBound=true) :
    t.needsMission=false := by
  dsimp only [Target.isHoverBound] at h
  simp only [Bool.and_eq_true,Bool.not_eq_true'] at h
  exact h.2

/-- The front of a queue of interruptions of hovering neither is a mission nor
needs one. -/
theorem front_of_hoverBound {queue rest : List (Planned R)} {p : Planned R}
    (h : ∀ q∈queue,q.target.isHoverBound=true) (hq : queue=p::rest) :
    p.target.isMission=false ∧ p.target.needsMission=false := by
  have hp : p.target.isHoverBound=true := h p (by rw [hq]; exact List.mem_cons_self)
  exact ⟨isMission_of_isHoverBound hp,needsMission_of_isHoverBound hp⟩

/-- A queue of interruptions of hovering is orderly. -/
theorem orderly_of_hoverBound {queue : List (Planned R)} {fallback : Option Fallback}
    (h : ∀ p∈queue,p.target.isHoverBound=true) : Orderly queue fallback where
  last := List.pairwise_iff_forall_sublist.mpr fun hsub _ =>
    h _ (hsub.subset (List.mem_cons_of_mem _ List.mem_cons_self))
  fallback := fun ⟨p,hp,hm⟩ => by rw [isMission_of_isHoverBound (h p hp)] at hm; cases hm

/-- The rest of an orderly queue is orderly. -/
theorem orderly_tail {p : Planned R} {rest : List (Planned R)} {fallback : Option Fallback}
    (h : Orderly (p::rest) fallback) : Orderly rest fallback :=
  ⟨(List.pairwise_cons.mp h.last).2,
    fun ⟨q,hq,hm⟩ => h.fallback ⟨q,List.mem_cons_of_mem _ hq,hm⟩⟩

/-- Something that is no mission may be put in front of an orderly queue. -/
theorem orderly_cons {p : Planned R} {rest : List (Planned R)} {fallback : Option Fallback}
    (h : Orderly rest fallback) (hp : p.target.isMission=false) : Orderly (p::rest) fallback where
  last := List.pairwise_cons.mpr ⟨fun _ _ hm => absurd hm (by simp [hp]),h.last⟩
  fallback := by
    rintro ⟨q,hq,hm⟩
    rcases List.mem_cons.mp hq with rfl|hq
    · rw [hp] at hm
      cases hm
    · exact h.fallback ⟨q,hq,hm⟩

/-- The plan of a mission is orderly. -/
theorem orderly_missionPlan (isGround : Bool) (alt : R) (m : AcceptedMission R) (fb : Fallback) :
    Orderly (missionPlan isGround alt m) (some fb) := by
  have hsingle : Orderly [(⟨.mission m,false⟩ : Planned R)] (some fb) :=
    ⟨List.pairwise_singleton _ _,fun _ => rfl⟩
  dsimp only [missionPlan]
  split
  · exact orderly_cons hsingle rfl
  · exact hsingle

/-- Marks do not matter for the order of a queue. -/
theorem orderly_abandon {queue : List (Planned R)} {fallback : Option Fallback}
    (h : Orderly queue fallback) : Orderly (queue.map abandon) fallback where
  last := List.pairwise_map.mpr h.last
  fallback := by
    rintro ⟨q,hq,hm⟩
    obtain ⟨p,hp,rfl⟩ := List.mem_map.mp hq
    exact h.fallback ⟨p,hp,hm⟩

namespace Engine

variable [Field R]

/-- Entering a planned state keeps the discipline. -/
theorem disciplined_enterTarget {pf : Platform R} {p : Planned R}
    (h : Orderly (p::s.queue) s.fallback)
    (hin : p.target.needsMission=true → ∀ w c,s.active=.waypoint w c → w.InRange ∧
      (∀ q∈s.queue,q.target.isHoverBound=true) ∧ s.fallback.isSome=true) :
    Disciplined (s.enterTarget pf p) := by
  have htail := orderly_tail h
  rcases enterTarget_active (s:=s) pf p with hnot|⟨m,w,hp,hw,ha⟩|⟨hneeds,w,c,x,hw,ha⟩
  · exact disciplined_of_settled (by simpa using htail) hnot
  · have hm : p.target.isMission=true := by rw [hp]; rfl
    refine ⟨by simpa using htail,fun w' c' hw' => ?_⟩
    rw [ha] at hw'
    cases hw'
    rw [enterTarget_queue,enterTarget_fallback]
    exact ⟨missionEntry_inRange hw,fun q hq => (List.pairwise_cons.mp h.last).1 q hq hm,
      h.fallback ⟨p,List.mem_cons_self,hm⟩⟩
  · refine ⟨by simpa using htail,fun w' c' hw' => ?_⟩
    rw [ha] at hw'
    cases hw'
    rw [enterTarget_queue,enterTarget_fallback]
    exact hin hneeds w c hw

/-- Stepping to a planned state keeps the discipline. -/
theorem disciplined_request {pf : Platform R} {p : Planned R}
    (h : Orderly (p::s.queue) s.fallback)
    (hin : p.target.needsMission=true → ∀ w c,s.active=.waypoint w c → w.InRange ∧
      (∀ q∈s.queue,q.target.isHoverBound=true) ∧ s.fallback.isSome=true) :
    Disciplined (s.request pf p) := by
  dsimp only [request]
  split
  · exact disciplined_of_settled (by simpa using h) rfl
  · exact disciplined_enterTarget h hin

/-- Running the front of the queue keeps the discipline. -/
theorem disciplined_advance {pf : Platform R} (h : Orderly s.queue s.fallback)
    (hin : ∀ w c,s.active=.waypoint w c → s.fallback.isSome=true ∧
      ∀ p rest,s.queue=p::rest → p.target.needsMission=true →
        w.InRange ∧ ∀ q∈rest,q.target.isHoverBound=true) :
    Disciplined (s.advance pf) := by
  dsimp only [advance]
  split
  · rename_i p rest hq
    rw [hq] at h
    refine disciplined_request h (fun hneeds w c hw => ?_)
    obtain ⟨hfb,hrest⟩ := hin w c hw
    obtain ⟨hrange,hbound⟩ := hrest p rest hq hneeds
    exact ⟨hrange,hbound,hfb⟩
  · split
    · exact disciplined_of_settled (by simpa using h) rfl
    · exact disciplined_of_settled (by simpa using h) rfl
    · rename_i hfb
      refine ⟨h,fun w c hw => ?_⟩
      have hsome := (hin w c hw).1
      rw [hfb] at hsome
      cases hsome

omit [Field R] in
/-- An interruption keeps the discipline. -/
theorem disciplined_interrupt (h : Disciplined s) (x : Excursion R) :
    Disciplined (s.interrupt x) := by
  rcases interrupt_active (s:=s) x with ⟨w,c,hw,hx⟩|⟨_,hx⟩
  · refine ⟨by simpa using h.orderly,fun w' c' hw' => ?_⟩
    rw [hx] at hw'
    cases hw'
    simpa using h.mission w c hw
  · exact disciplined_of_settled (by simpa using h.orderly) (by rw [hx]; rfl)

omit [Field R] in
/-- An answer keeps the discipline. -/
theorem disciplined_answer (h : Disciplined s) (id : ℕ) (result : Except String String) :
    Disciplined (s.answer id result) := ⟨h.orderly,h.mission⟩

theorem disciplined_moveTo (h : Disciplined s) (pf : Platform R) (e : SetPosVelEvent R) :
    Disciplined (s.moveTo pf e) := by
  have hx := fun kept => disciplined_interrupt h (.posVel kept .move)
  obtain ⟨kept,heq|heq|heq⟩ := moveTo_cases pf s e <;> rw [heq]
  · exact hx kept
  · exact ⟨(hx kept).orderly,(hx kept).mission⟩
  · exact ⟨(hx kept).orderly,(hx kept).mission⟩

omit [Field R] in
/-- The end of an interruption keeps the discipline. -/
theorem disciplined_resume (h : Disciplined s) : Disciplined s.resume := by
  dsimp only [resume]
  split
  · rename_i w c hw
    refine ⟨by simpa using h.orderly,fun w' c' hw' => ?_⟩
    rw [enterLifting_active] at hw'
    cases hw'
    simpa using h.mission w c hw
  · exact disciplined_of_settled (by simpa using h.orderly) rfl

theorem disciplined_excursionTick (h : Disciplined s) (pf : Platform R) (x : Excursion R)
    (o : TickObs) : Disciplined (s.excursionTick pf x o) := by
  rcases excursionTick_cases pf s x o with heq|⟨e,heq⟩|heq|heq <;> rw [heq]
  · exact h
  · exact disciplined_interrupt h _
  · exact disciplined_resume h
  · exact ⟨h.orderly,h.mission⟩

/-- An arrival keeps the discipline. -/
theorem disciplined_arrive (h : Disciplined s) {pf : Platform R} {w : WaypointState R}
    {c : WaypointChild R} (hw : s.active=.waypoint w c) : Disciplined (s.arrive pf w) := by
  obtain ⟨_,hbound,hfb⟩ := h.mission w c hw
  have hnext : w.arrival≠.finish → w.advance.InRange := by
    intro harr
    by_contra hout
    exact harr ((w.arrival_eq_finish_iff).mpr hout)
  unfold arrive
  dsimp only
  split
  · refine disciplined_advance h.orderly (fun w' c' _ => ⟨hfb,fun p rest hq hneeds => ?_⟩)
    rw [(front_of_hoverBound hbound hq).2] at hneeds
    cases hneeds
  · rename_i hlift
    refine ⟨by simpa using h.orderly,fun w' c' hw' => ?_⟩
    rw [enterLifting_active] at hw'
    cases hw'
    rw [enterLifting_queue,enterLifting_fallback]
    exact ⟨hnext (by rw [hlift]; exact Arrival.noConfusion),hbound,hfb⟩
  · rename_i hfly
    refine ⟨by simpa using h.orderly,fun w' c' hw' => ?_⟩
    rw [enterExcute_active] at hw'
    cases hw'
    rw [enterExcute_queue,enterExcute_fallback]
    exact ⟨hnext (by rw [hfly]; exact Arrival.noConfusion),hbound,hfb⟩

theorem disciplined_takeoffTick (h : Disciplined s) {pf : Platform R} {event : Option ℕ}
    {settled : Bool} {alt : R} (ha : s.active=.takeoff event settled alt) (o : TickObs) :
    Disciplined (s.takeoffTick pf event settled alt o) := by
  dsimp only [takeoffTick]
  split_ifs
  · exact disciplined_of_settled (by simpa using h.orderly) (groundOrHover_isWaypoint _)
  · exact disciplined_of_settled (by simpa using h.orderly) rfl
  all_goals first
    | exact disciplined_advance h.orderly (fun w c hw => by rw [ha] at hw; cases hw)
    | exact h

/-- A tick of the active state keeps the discipline. -/
theorem disciplined_tick (h : Disciplined s) (pf : Platform R) (o : TickObs) :
    Disciplined (s.tick pf o) := by
  have hgh : Disciplined s.groundOrHover :=
    disciplined_of_settled (by simpa using h.orderly) (groundOrHover_isWaypoint s)
  dsimp only [tick]
  split
  · split
    · exact hgh
    · exact h
  · split
    · exact disciplined_of_settled (by simpa using h.orderly) rfl
    · exact h
  · split
    · exact disciplined_of_settled (by simpa [giveUp] using orderly_abandon h.orderly)
        (groundOrHover_isWaypoint _)
    · exact h
  · exact h
  · exact disciplined_excursionTick h pf _ o
  · rename_i ha
    exact disciplined_takeoffTick h ha o
  · split
    · exact disciplined_of_settled (by simpa using h.orderly) rfl
    · exact h
  · rename_i w ha
    split
    · refine ⟨by simpa using h.orderly,fun w' c' hw' => ?_⟩
      rw [enterExcute_active] at hw'
      cases hw'
      simpa using h.mission w _ ha
    · exact h
  · rename_i w ha
    split
    · exact disciplined_arrive h ha
    · exact h
  · exact disciplined_excursionTick h pf _ o

theorem disciplined_startMission (h : Disciplined s) (pf : Platform R) (e : SetWaypointEvent R)
    (m : AcceptedMission R) : Disciplined (s.startMission pf e m) := by
  dsimp only [startMission]
  split
  · exact disciplined_of_settled (by simpa using h.orderly) rfl
  · refine disciplined_advance (orderly_missionPlan ..)
      (fun w c _ => ⟨rfl,fun p rest hq hneeds => ?_⟩)
    have hp : p∈missionPlan s.active.isGround (takeoffAlt e) m := by
      rw [show missionPlan s.active.isGround (takeoffAlt e) m=p::rest from hq]
      exact List.mem_cons_self
    rw [needsMission_of_mem_missionPlan hp] at hneeds
    cases hneeds

/-- A point command keeps the discipline. -/
theorem disciplined_onSetPosVel (h : Disciplined s) (pf : Platform R) (id : ℕ)
    (e : SetPosVelEvent R) : Disciplined (s.onSetPosVel pf id e) := by
  have hpush : ∀ (parent : Parent) (fb : Option Fallback),
      (s.fallback.isSome=true → fb.isSome=true) →
      Orderly (s.queue++[(⟨.posVel parent e,false⟩ : Planned R)]) fb → Disciplined
        (({ s with
          queue := s.queue++[(⟨.posVel parent e,false⟩ : Planned R)]
          fallback := fb }).advance pf) := by
    intro parent fb hfb ho
    refine disciplined_advance ho (fun w c hw => ?_)
    obtain ⟨hrange,hbound,hsome⟩ := h.mission w c hw
    refine ⟨hfb hsome,fun p rest hq hneeds => ?_⟩
    cases hqueue : s.queue with
    | nil =>
      dsimp only at hq
      rw [hqueue] at hq
      cases hq
      exact ⟨hrange,fun q hq => (nomatch hq)⟩
    | cons front others =>
      dsimp only at hq
      rw [hqueue] at hq
      cases hq
      rw [(front_of_hoverBound hbound hqueue).2] at hneeds
      cases hneeds
  have hresolve : ∀ t,Disciplined t → Disciplined (resolveStarted id s t) :=
    fun t ht => resolveStarted_keeps id s t ht (disciplined_answer ht id _)
  dsimp only [onSetPosVel]
  split
  · exact disciplined_moveTo (disciplined_answer h id _) pf e
  · rename_i w c hw _
    obtain ⟨_,hbound,_⟩ := h.mission w c hw
    refine hresolve _ (hpush .waypoint s.fallback (fun hsome => hsome) ⟨?_,?_⟩)
    · refine List.pairwise_append.mpr ⟨h.orderly.last,List.pairwise_singleton _ _,?_⟩
      intro p hp q _ hm
      rw [isMission_of_isHoverBound (hbound p hp)] at hm
      cases hm
    · rintro ⟨p,hp,hm⟩
      rcases List.mem_append.mp hp with hp|hp
      · exact h.orderly.fallback ⟨p,hp,hm⟩
      · rw [List.mem_singleton.mp hp] at hm
        cases hm
  · refine hresolve _ (hpush .hover (some .hover) (fun _ => rfl) ⟨?_,fun _ => rfl⟩)
    refine List.pairwise_append.mpr ⟨h.orderly.last,List.pairwise_singleton _ _,?_⟩
    intro p _ q hq _
    rw [List.mem_singleton.mp hq]
    rfl
  · exact disciplined_answer h id _

/-- A detected target keeps the discipline. -/
theorem disciplined_onDetect (h : Disciplined s) (pf : Platform R) (cooling : Bool) :
    Disciplined (s.onDetect pf cooling) := by
  rcases onDetect_cases pf s cooling with heq|⟨_,parent,_,heq⟩ <;> rw [heq]
  · exact h
  · exact disciplined_request (orderly_cons h.orderly rfl) (fun _ w c hw => h.mission w c hw)

/-- Every step keeps the discipline. -/
theorem disciplined_step (pf : Platform R) (s : Engine R) (l : Label R) (h : Disciplined s) :
    Disciplined (step pf s l) := by
  have hsettled : ∀ a : Active R,a.isWaypoint=false → Disciplined (s.goto a) := fun a ha =>
    disciplined_of_settled (by simpa using h.orderly) ha
  cases l with
  | sense x => exact ⟨h.orderly,h.mission⟩
  | listenerTick =>
    dsimp only [step]
    rcases listenerTick_cases s with heq|heq <;> rw [heq]
    · exact h
    · exact disciplined_of_settled (by simpa using h.orderly) rfl
  | tick o => exact disciplined_tick h pf o
  | takeoffEvent id alt =>
    dsimp only [step,onTakeoff]
    split
    · exact disciplined_answer h _ _
    · refine disciplined_advance (orderly_cons (orderly_of_hoverBound fun p hp => (nomatch hp)) rfl)
        (fun w c _ => ⟨rfl,fun p rest hq hneeds => ?_⟩)
      cases hq
      cases hneeds
  | setWaypoint id e =>
    dsimp only [step,onSetWaypoint]
    split
    · exact disciplined_answer h _ _
    · exact disciplined_answer (disciplined_startMission h pf e _) id _
  | setPosVel id e => exact disciplined_onSetPosVel h pf id e
  | landEvent id doPland =>
    dsimp only [step,onLand]
    split
    · exact disciplined_answer h _ _
    · exact disciplined_of_settled (by simpa using h.orderly) rfl
  | restart =>
    exact disciplined_of_settled (by simpa [step,onRestart] using h.orderly) rfl
  | armEvent armed =>
    dsimp only [step]
    rcases onArm_cases pf s armed with heq|⟨ha,heq⟩ <;> rw [heq]
    · exact h
    · exact disciplined_advance h.orderly (fun w c hw => by rw [ha] at hw; cases hw)
  | statusText text =>
    dsimp only [step]
    rcases onStatusText_cases pf s text with heq|⟨_,heq⟩ <;> rw [heq]
    · exact h
    · exact disciplined_of_settled (by simpa [giveUp] using orderly_abandon h.orderly)
        (groundOrHover_isWaypoint _)
  | detect cooling => exact disciplined_onDetect h pf cooling
  | stopFollow id =>
    dsimp only [step,onStopFollow]
    split
    · exact disciplined_resume (disciplined_answer h id _)
    · exact disciplined_answer h _ _
  | loiter id =>
    dsimp only [step,onLoiter]
    split
    · exact disciplined_answer (disciplined_answer (hsettled _ rfl) id _) id _
    · exact disciplined_answer h _ _

/-- Every reachable state is disciplined. -/
theorem run_disciplined (pf : Platform R) (x : Sensors R) (labels : List (Label R)) :
    Disciplined (runFrom (step pf) (initial x) labels) :=
  run_invariant (disciplined_step pf) labels
    ⟨orderly_of_hoverBound fun _ hp => (nomatch hp),fun _ _ hw => (nomatch hw)⟩

end Engine

/-- Everything planned afterwards was planned before or is new. -/
def PlansFrom (new : Target R → Prop) (s t : Engine R) : Prop :=
  ∀ q∈t.queue,(∃ p∈s.queue,p.target=q.target) ∨ new q.target

/-- What a label can add to the plan. -/
def Label.Plans [Field R] (pf : Platform R) (s : Engine R) (l : Label R) (t : Target R) : Prop :=
  match l with
  | .takeoffEvent id alt => t=.takeoff (some id) alt
  | .setWaypoint _ e => (∃ alt,t=.takeoff none alt) ∨ ∃ m : AcceptedMission R,
      acceptWaypoint pf s.ctx s.active.isInit s.active.isGround e=.ok m.event ∧ t=.mission m
  | .setPosVel _ e => ∃ parent,t=.posVel parent e
  | .detect _ => ∃ parent,t=.follow parent
  | _ => False

section

variable {t : Engine R} {new : Target R → Prop}

/-- Planned states that were all planned before. -/
theorem plansFrom_of_subset (h : t.queue⊆s.queue) : PlansFrom new s t :=
  fun q hq => Or.inl ⟨q,h hq,rfl⟩

/-- An unchanged plan. -/
theorem plansFrom_of_eq (h : t.queue=s.queue) : PlansFrom new s t :=
  plansFrom_of_subset fun q hq => by rwa [←h]

/-- Giving up only marks what is planned. -/
theorem plansFrom_giveUp : PlansFrom new s s.giveUp := by
  intro q hq
  dsimp only [giveUp] at hq
  rw [groundOrHover_queue] at hq
  obtain ⟨p,hp,rfl⟩ := List.mem_map.mp hq
  exact Or.inl ⟨p,hp,rfl⟩

variable [Field R] {pf : Platform R}

/-- What is queued after running the front was queued before. -/
theorem advance_queue_subset : (s.advance pf).queue⊆s.queue := by
  intro q hq
  dsimp only [advance] at hq
  split at hq
  · rename_i p rest hqueue
    rw [hqueue]
    dsimp only [request] at hq
    split at hq
    · exact hq
    · rw [enterTarget_queue] at hq
      exact List.mem_cons_of_mem _ hq
  · split at hq
    · simpa using hq
    · simpa using hq
    · exact hq

/-- An interruption plans nothing. -/
theorem excursionTick_queue (x : Excursion R) (o : TickObs) :
    (s.excursionTick pf x o).queue=s.queue := by
  rcases excursionTick_cases pf s x o with heq|⟨e,heq⟩|heq|heq <;> rw [heq]
  · exact interrupt_queue s _
  · exact resume_queue s
  · rfl

/-- A tick of the active state plans nothing new. -/
theorem plansFrom_tick (o : TickObs) : PlansFrom new s (s.tick pf o) := by
  have hsame : PlansFrom new s s := plansFrom_of_eq rfl
  have hadvance : PlansFrom new s (s.advance pf) := plansFrom_of_subset advance_queue_subset
  dsimp only [tick]
  split
  · split
    · exact plansFrom_of_eq (groundOrHover_queue s)
    · exact hsame
  · split
    · exact plansFrom_of_eq (goto_queue s _)
    · exact hsame
  · split
    · exact plansFrom_giveUp
    · exact hsame
  · exact hsame
  · exact plansFrom_of_eq (excursionTick_queue _ o)
  · dsimp only [takeoffTick]
    split_ifs
    · exact plansFrom_of_eq (by simp)
    · exact plansFrom_of_eq (toGround_queue s)
    all_goals first
      | exact hadvance
      | exact hsame
  · split
    · exact plansFrom_of_eq (toGround_queue s)
    · exact hsame
  · split
    · exact plansFrom_of_eq (enterExcute_queue s pf _)
    · exact hsame
  · split
    · unfold arrive
      dsimp only
      split
      · exact plansFrom_of_subset advance_queue_subset
      · exact plansFrom_of_eq (by simp)
      · exact plansFrom_of_eq (by simp)
    · exact hsame
  · exact plansFrom_of_eq (excursionTick_queue _ o)

/-- A point command plans at most its own interruption. -/
theorem plansFrom_onSetPosVel (id : ℕ) (e : SetPosVelEvent R) :
    PlansFrom (fun t => ∃ parent,t=.posVel parent e) s (s.onSetPosVel pf id e) := by
  have hpush : ∀ (parent : Parent) (fb : Option Fallback),
      PlansFrom (fun t => ∃ parent,t=.posVel parent e) s (({ s with
        queue := s.queue++[(⟨.posVel parent e,false⟩ : Planned R)]
        fallback := fb }).advance pf) := by
    intro parent fb q hq
    rcases List.mem_append.mp (advance_queue_subset hq) with hold|hnew
    · exact Or.inl ⟨q,hold,rfl⟩
    · rw [List.mem_singleton.mp hnew]
      exact Or.inr ⟨parent,rfl⟩
  have hresolve : ∀ t,PlansFrom (fun t => ∃ parent,t=.posVel parent e) s t →
      PlansFrom (fun t => ∃ parent,t=.posVel parent e) s (resolveStarted id s t) :=
    fun t ht => resolveStarted_keeps id s t ht ht
  dsimp only [onSetPosVel]
  split
  · exact plansFrom_of_eq (by simp)
  · exact hresolve _ (hpush .waypoint s.fallback)
  · exact hresolve _ (hpush .hover (some .hover))
  · exact plansFrom_of_eq rfl

/-- A step plans only what its label adds. -/
theorem plansFrom_step (l : Label R) : PlansFrom (l.Plans pf s) s (step pf s l) := by
  have hsame : ∀ new,PlansFrom new s s := fun _ => plansFrom_of_eq rfl
  cases l with
  | sense x => exact plansFrom_of_eq rfl
  | listenerTick =>
    dsimp only [step]
    rcases listenerTick_cases s with heq|heq <;> rw [heq]
    · exact hsame _
    · exact plansFrom_of_eq (toGround_queue s)
  | tick o => exact plansFrom_tick o
  | takeoffEvent id alt =>
    dsimp only [step,onTakeoff]
    split
    · exact plansFrom_of_eq rfl
    · intro q hq
      rw [List.mem_singleton.mp (advance_queue_subset hq)]
      exact Or.inr rfl
  | setWaypoint id e =>
    dsimp only [step,onSetWaypoint]
    split
    · exact plansFrom_of_eq rfl
    · rename_i accepted hacc
      dsimp only [startMission]
      split
      · exact plansFrom_of_eq (by simp)
      · intro q hq
        rcases target_of_mem_missionPlan (advance_queue_subset hq) with htakeoff|hmission
        · exact Or.inr (Or.inl ⟨_,htakeoff⟩)
        · exact Or.inr (Or.inr ⟨_,hacc,hmission⟩)
  | setPosVel id e => exact plansFrom_onSetPosVel id e
  | landEvent id doPland =>
    dsimp only [step,onLand]
    split
    · exact plansFrom_of_eq rfl
    · exact plansFrom_of_eq (goto_queue _ _)
  | restart => exact plansFrom_of_eq (goto_queue s .init)
  | armEvent armed =>
    dsimp only [step]
    rcases onArm_cases pf s armed with heq|⟨_,heq⟩ <;> rw [heq]
    · exact hsame _
    · exact plansFrom_of_subset advance_queue_subset
  | statusText text =>
    dsimp only [step]
    rcases onStatusText_cases pf s text with heq|⟨_,heq⟩ <;> rw [heq]
    · exact hsame _
    · exact plansFrom_giveUp
  | detect cooling =>
    dsimp only [step]
    rcases onDetect_cases pf s cooling with heq|⟨_,parent,_,heq⟩ <;> rw [heq]
    · exact hsame _
    · dsimp only [request]
      split
      · intro q hq
        rcases List.mem_cons.mp hq with rfl|hold
        · exact Or.inr ⟨parent,rfl⟩
        · exact Or.inl ⟨q,hold,rfl⟩
      · exact plansFrom_of_eq (enterTarget_queue s pf _)
  | stopFollow id =>
    dsimp only [step,onStopFollow]
    split
    · exact plansFrom_of_eq (resume_queue _)
    · exact plansFrom_of_eq rfl
  | loiter id =>
    dsimp only [step,onLoiter]
    split
    · exact plansFrom_of_eq (goto_queue s (.hover none))
    · exact plansFrom_of_eq rfl

end

section

variable [Field R] {okMission : AcceptedMission R → Prop} {pf : Platform R}

/-- Only accepted mission requests plan missions. -/
theorem queued_step (l : Label R) (h : Queued okMission s) (hsub : Submits pf okMission s l) :
    Queued okMission (step pf s l) := by
  intro q hq m hm
  rcases plansFrom_step l q hq with ⟨p,hp,htarget⟩|hnew
  · exact h p hp m (htarget.trans hm)
  · rw [hm] at hnew
    cases l with
    | setWaypoint id e =>
      rcases hnew with ⟨alt,htakeoff⟩|⟨m',hacc,hmission⟩
      · cases htakeoff
      · cases hmission
        exact hsub m hacc
    | takeoffEvent id alt => cases hnew
    | setPosVel id e =>
      obtain ⟨parent,hposVel⟩ := hnew
      cases hposVel
    | detect cooling =>
      obtain ⟨parent,hfollow⟩ := hnew
      cases hfollow
    | _ => cases hnew

/-- The guard of a run: accepted missions and interruptions meet the conditions. -/
def Guard (pf : Platform R) (okMission : AcceptedMission R → Prop)
    (okInterrupt : WaypointState R → WaypointChild R → Prop) (s : Engine R) (l : Label R) : Prop :=
  Submits pf okMission s l ∧
    (l.interrupts=true → ∀ w c,s.active=.waypoint w c → okInterrupt w c)

/-- The invariant rule of the engine: what every elementary change keeps holds
in every state that a guarded run reaches. -/
theorem StepRule.run {okInterrupt : WaypointState R → WaypointChild R → Prop}
    {P : Engine R → Prop} (h : StepRule pf okMission okInterrupt P) (x : Sensors R)
    (hinit : P (initial x)) (labels : List (Label R))
    (hg : Guarded (Engine.step pf) (Guard pf okMission okInterrupt) (initial x) labels) :
    P (runFrom (Engine.step pf) (initial x) labels) := by
  have hall : Disciplined (runFrom (Engine.step pf) (initial x) labels) ∧
      Queued okMission (runFrom (Engine.step pf) (initial x) labels) ∧
      P (runFrom (Engine.step pf) (initial x) labels) := by
    refine guarded_invariant (P:=fun s => Disciplined s ∧ Queued okMission s ∧ P s) ?_ labels
      ⟨run_disciplined pf x [],fun _ hq => (nomatch hq),hinit⟩ hg
    rintro s l ⟨hd,hq,hp⟩ ⟨hsub,hok⟩
    refine ⟨disciplined_step pf s l hd,queued_step l hq hsub,h.step hp l ?_ ?_ hq hsub hok⟩
    · exact fun w c hw => (hd.mission w c hw).1
    · intro hw p hpq
      cases ha : s.active with
      | waypoint w c => exact needsMission_of_isHoverBound ((hd.mission w c ha).2.1 p hpq)
      | _ => rw [ha] at hw; cases hw
  exact hall.2.2

/-- The rule for invariants that need no guard. -/
theorem StepRule.run_unguarded {P : Engine R → Prop}
    (h : StepRule pf (fun _ => True) (fun _ _ => True) P) (x : Sensors R)
    (hinit : P (initial x)) (labels : List (Label R)) :
    P (runFrom (Engine.step pf) (initial x) labels) := by
  refine h.run x hinit labels (guarded_of_forall (fun s l => ⟨?_,fun _ _ _ _ => trivial⟩) _ _)
  cases l <;> simp [Submits]

end

end Dankong.Flight

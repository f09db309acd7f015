import Dankong.AbandonedPlan

/-!
# Answers to takeoff requests

A takeoff request is held by the listener, then by a closure in the plan queue and
at last by an instance of `TakeoffState`. Only the instance rejects a request that it
is destroyed with. In every run in which nothing drops a request while it waits for
the vehicle to be armed, every request is answered, the latest one possibly only
when the arming ends, and success is answered only for a takeoff that began.
-/

namespace Dankong.Flight

open Engine Runs

variable {R : Type*}

/-- The request behind a takeoff. -/
def Target.request? : Target R → Option ℕ
  | .takeoff event _ => event
  | _ => none

/-- The request behind a planned takeoff. -/
def Planned.request? (p : Planned R) : Option ℕ := p.target.request?

/-- Nothing planned comes from a takeoff request. -/
def NoRequest (queue : List (Planned R)) : Prop := ∀ p∈queue,p.request?=none

/-- A takeoff in progress has settled its request. -/
def Active.settled : Active R → Bool
  | .takeoff _ settled _ => settled
  | _ => true

/-- The robot accepted the takeoff command of a request: its planned takeoff is run
and a takeoff begins. -/
def Started (id : ℕ) (log : List (Output R)) : Prop :=
  ∃ later point p earlier,log=later++.takeoffStarted point::.ran p::earlier ∧ p.request?=some id

/-- The request waits alone in the queue for the vehicle to be armed. -/
def WaitsToArm (id : ℕ) (s : Engine R) : Prop :=
  s.active=.arm ∧ ∃ alt,s.queue=[⟨.takeoff (some id) alt,false⟩]

/-- Whether a label is a takeoff request. -/
def Label.isTakeoff : Label R → Bool
  | .takeoffEvent .. => true
  | _ => false

/-- A request under the given number. -/
def Label.numbered (n : ℕ) : Label R → Label R
  | .takeoffEvent _ alt => .takeoffEvent n alt
  | .setWaypoint _ e => .setWaypoint n e
  | .setPosVel _ e => .setPosVel n e
  | .landEvent _ doPland => .landEvent n doPland
  | .stopFollow _ => .stopFollow n
  | .loiter _ => .loiter n
  | l => l

/-- The engine behind a desk that numbers what arrives, so that no two requests share
a number. -/
structure Desk (R : Type*) where
  /-- The engine. -/
  engine : Engine R
  /-- Number of events and ticks so far. -/
  arrived : ℕ := 0
  /-- Takeoff requests received, latest first. -/
  takeoffs : List ℕ := []

/-- An event or tick arrives. -/
def Desk.step [Field R] (pf : Platform R) (d : Desk R) (l : Label R) : Desk R where
  engine := Engine.step pf d.engine (l.numbered d.arrived)
  arrived := d.arrived+1
  takeoffs := if l.isTakeoff=true then d.arrived::d.takeoffs else d.takeoffs

/-- Every takeoff request is answered, and truthfully. -/
structure TakeoffsAnswered (d : Desk R) : Prop where
  /-- Success is answered only if the robot accepted the takeoff. -/
  truthful : ∀ id∈d.takeoffs,∀ text,(id,.ok text)∈d.engine.answers → Started id d.engine.log
  /-- Only the latest request may be unanswered, while its arming is in progress. -/
  pending : ∀ id∈d.takeoffs,(∃ result,(id,result)∈d.engine.answers) ∨
    (d.takeoffs.head?=some id ∧ WaitsToArm id d.engine)
  /-- A request that a new one superseded is answered with an error, unless its
  takeoff had begun. -/
  superseded : ∀ id∈d.takeoffs.tail,(∃ text,(id,.error text)∈d.engine.answers) ∨
    Started id d.engine.log
  /-- So is a request whose arming was abandoned. -/
  abandoned : ∀ p∈d.engine.queue,p.abandoned=true → ∀ id,p.request?=some id →
    ∃ text,(id,.error text)∈d.engine.answers

/-- Guard: while a takeoff request waits for the vehicle to be armed, the arming does
not give up, and no new takeoff, accepted mission, landing, restart or loitering in the air
drops it. -/
def LetsItArm [Field R] (pf : Platform R) (d : Desk R) (l : Label R) : Prop :=
  (∃ id,WaitsToArm id d.engine) → match l with
    | .tick o => o.timedOut=false
    | .statusText text => pf.isPrearmMsg text=false
    | .setWaypoint _ e => ∃ text,
        acceptWaypoint pf d.engine.ctx d.engine.active.isInit d.engine.active.isGround e=.error text
    | .takeoffEvent .. => False
    | .landEvent .. => False
    | .restart => False
    | .loiter _ => d.engine.ctx.checkHover=false
    | _ => True

/-- What has begun stays begun. -/
theorem Started.mono {id : ℕ} {log log' : List (Output R)} (h : Started id log)
    (hsub : log<:+log') : Started id log' := by
  obtain ⟨later,point,p,earlier,rfl,hp⟩ := h
  obtain ⟨more,rfl⟩ := hsub
  exact ⟨more++later,point,p,earlier,by rw [List.append_assoc],hp⟩

/-- A step that answers no request and keeps the record. -/
structure Silent (s t : Engine R) : Prop where
  /-- No takeoff with an unsettled request is left active. -/
  settled : t.active.settled=true
  /-- The answers stay the same. -/
  answers : t.answers=s.answers
  /-- The record is continued. -/
  log : s.log<:+t.log

namespace Silent

variable {s t u : Engine R}

theorem refl (hs : s.active.settled=true) : Silent s s := ⟨hs,rfl,List.suffix_rfl⟩

theorem trans (h : Silent s t) (h' : Silent t u) : Silent s u :=
  ⟨h'.settled,h'.answers.trans h.answers,h.log.trans h'.log⟩

/-- A further output changes nothing here. -/
theorem emit (h : Silent s t) (o : Output R) : Silent s (t.emit o) :=
  ⟨h.settled,h.answers,h.log.trans (List.suffix_cons o t.log)⟩

/-- Leaving a settled state rejects nothing. -/
theorem leave_eq (hs : s.active.settled=true) : s.leave=s := by
  dsimp only [Engine.leave]
  split
  · rename_i ha
    rw [ha] at hs
    cases hs
  · rfl

/-- So entering another one is silent. -/
theorem goto (h : Silent s t) {a : Active R} (ha : a.settled=true) : Silent s (t.goto a) := by
  dsimp only [Engine.goto]
  rw [leave_eq h.settled]
  exact ⟨ha,h.answers,h.log⟩

theorem toGround (h : Silent s t) : Silent s t.toGround := by
  have hgoto := h.goto (a := .ground) rfl
  refine ⟨rfl,hgoto.answers,?_⟩
  dsimp only [Engine.toGround]
  exact h.log.trans (List.suffix_cons _ _)

theorem groundOrHover (h : Silent s t) : Silent s t.groundOrHover := by
  dsimp only [Engine.groundOrHover]
  split
  · exact h.goto rfl
  · exact h.toGround

theorem interrupt (h : Silent s t) (x : Excursion R) : Silent s (t.interrupt x) := by
  dsimp only [Engine.interrupt]
  split <;> exact h.goto rfl

theorem enterLifting (h : Silent s t) (w : WaypointState R) : Silent s (t.enterLifting w) := by
  dsimp only [Engine.enterLifting]
  split
  · exact h.goto rfl
  · exact (h.goto rfl).emit _

theorem enterExcute (h : Silent s t) (pf : Platform R) (w : WaypointState R) :
    Silent s (t.enterExcute pf w) := by
  have hgoto := h.goto (a := .waypoint w .excute) rfl
  dsimp only [Engine.enterExcute]
  split
  · exact ⟨rfl,hgoto.answers,h.log.trans (List.suffix_append _ _)⟩
  · exact hgoto.emit _

theorem resume (h : Silent s t) : Silent s t.resume := by
  dsimp only [Engine.resume]
  split
  · exact h.enterLifting _
  · exact h.goto rfl

/-- The memories and the record may change before a state is entered. -/
theorem record (h : Silent s t) (ctx : RobotContext R) (o : Output R) :
    Silent s { t with ctx := ctx, log := o::t.log } :=
  ⟨h.settled,h.answers,h.log.trans (List.suffix_cons _ _)⟩

theorem enterMission (h : Silent s t) (pf : Platform R) (m : AcceptedMission R) :
    Silent s (t.enterMission pf m) := by
  have hrecord := h.record { t.ctx with
    missionHomeEnu := homeAfter m.event t.ctx.posEnu t.ctx.missionHomeEnu }
    (.missionEntered m.event t.ctx.posEnu)
  unfold Engine.enterMission
  dsimp only
  split
  · exact hrecord.enterLifting _
  · exact hrecord.goto rfl
  · exact hrecord.goto rfl
  · exact hrecord.emit _

/-- The plan may change. -/
theorem plan (h : Silent s t) (queue : List (Planned R)) (fallback : Option Fallback) :
    Silent s { t with queue := queue, fallback := fallback } :=
  ⟨h.settled,h.answers,h.log⟩

variable [Field R] {pf : Platform R}

theorem moveTo (h : Silent s t) (e : SetPosVelEvent R) : Silent s (t.moveTo pf e) := by
  obtain ⟨kept,heq|heq|heq⟩ := moveTo_cases pf t e <;> rw [heq]
  · exact h.interrupt _
  · exact (h.interrupt _).emit _
  · exact (h.interrupt _).emit _

omit [Field R] in
theorem enterUnder (h : Silent s t) (parent : Parent) {enter : Engine R → Engine R}
    (henter : ∀ u,Silent s u → Silent s (enter u)) : Silent s (t.enterUnder parent enter) := by
  dsimp only [Engine.enterUnder]
  split
  · exact henter t h
  · exact h.emit _
  · exact henter _ (h.goto rfl)

omit [Field R] in
/-- A takeoff of a mission answers nobody. -/
theorem enterTakeoff_none (h : Silent s t) (alt : R) : Silent s (t.enterTakeoff none alt) := by
  have hgoto := h.goto (a := .takeoff none true alt) rfl
  dsimp only [Engine.enterTakeoff]
  split
  · exact ⟨rfl,hgoto.answers,h.log.trans (List.suffix_cons _ _)⟩
  · exact hgoto.groundOrHover

/-- Entering a planned state that comes from no request is silent. -/
theorem enterTarget (h : Silent s t) {p : Planned R} (hp : p.request?=none) :
    Silent s (t.enterTarget pf p) := by
  dsimp only [Engine.enterTarget]
  split
  · rename_i event alt ht
    obtain rfl : event=none := by
      rw [←hp,Planned.request?,ht]
      rfl
    exact (h.emit _).enterTakeoff_none alt
  · exact (h.emit _).enterMission pf _
  · exact h.enterUnder _ (fun u hu => hu.moveTo _)
  · exact h.enterUnder _ (fun u hu => hu.interrupt _)

theorem request (h : Silent s t) {p : Planned R} (hp : p.request?=none) :
    Silent s (t.request pf p) := by
  dsimp only [Engine.request]
  split
  · exact (h.goto (a := .arm) rfl).plan (p::t.queue) (t.goto .arm).fallback
  · exact h.enterTarget hp

theorem advance (h : Silent s t) (hq : NoRequest t.queue) : Silent s (t.advance pf) := by
  dsimp only [Engine.advance]
  split
  · rename_i p rest hqueue
    exact (h.plan rest t.fallback).request (hq p (by rw [hqueue]; exact List.mem_cons_self))
  · split
    · exact h.goto rfl
    · exact h.goto rfl
    · exact h

theorem excursionTick (h : Silent s t) (x : Excursion R) (o : TickObs) :
    Silent s (t.excursionTick pf x o) := by
  rcases excursionTick_cases pf t x o with heq|⟨e,heq⟩|heq|heq <;> rw [heq]
  · exact h
  · exact h.interrupt _
  · exact h.resume
  · exact h.emit _

/-- A tick of a settled takeoff answers nobody. -/
theorem takeoffTick (h : Silent s t) (hq : NoRequest t.queue) (event : Option ℕ) (alt : R)
    (o : TickObs) : Silent s (t.takeoffTick pf event true alt o) := by
  dsimp only [Engine.takeoffTick]
  rw [if_neg (fun hlate => absurd hlate.2.1 Bool.false_ne_true.symm)]
  split_ifs
  · exact h.toGround
  all_goals first
    | exact h.advance hq
    | exact h

theorem arrive (h : Silent s t) (hq : NoRequest t.queue) (w : WaypointState R) :
    Silent s (t.arrive pf w) := by
  have hcounted : Silent s { t with
      active := .waypoint w.advance .excute
      log := .progress (w.wpIdx+1) w.wpList.length::t.log } :=
    ⟨rfl,h.answers,h.log.trans (List.suffix_cons _ _)⟩
  unfold Engine.arrive
  dsimp only
  split
  · exact (hcounted.emit .taskDone).advance hq
  · exact hcounted.enterLifting _
  · exact hcounted.enterExcute pf _

/-- A tick answers nobody if nothing planned comes from a request. -/
theorem tick (hs : s.active.settled=true) (hq : NoRequest s.queue) (o : TickObs) :
    Silent s (s.tick pf o) := by
  have h := Silent.refl hs
  dsimp only [Engine.tick]
  split
  · split
    · exact h.groundOrHover
    · exact h
  · split
    · exact h.goto rfl
    · exact h
  · split
    · exact (h.plan (s.queue.map abandon) s.fallback).groundOrHover
    · exact h
  · exact h
  · exact h.excursionTick _ o
  · rename_i event settled alt ha
    rw [ha] at hs
    obtain rfl : settled=true := hs
    exact h.takeoffTick hq event alt o
  · split
    · exact h.toGround
    · exact h
  · split
    · exact h.enterExcute pf _
    · exact h
  · split
    · exact h.arrive hq _
    · exact h
  · exact h.excursionTick _ o

end Silent

/-- A mission's plan comes from no takeoff request. -/
theorem noRequest_missionPlan (isGround : Bool) (alt : R) (m : AcceptedMission R) :
    NoRequest (missionPlan isGround alt m) := by
  intro p hp
  rcases target_of_mem_missionPlan hp with htakeoff|hmission
  · rw [Planned.request?,htakeoff]
    rfl
  · rw [Planned.request?,hmission]
    rfl

/-- Only a takeoff request puts a request into the queue. -/
theorem noRequest_step [Field R] (pf : Platform R) {s : Engine R} (hq : NoRequest s.queue)
    {l : Label R} (hl : l.isTakeoff=false) : NoRequest (Engine.step pf s l).queue := by
  intro q hmem
  rcases plansFrom_step l q hmem with ⟨p,hp,htarget⟩|hnew
  · rw [Planned.request?,←htarget]
    exact hq p hp
  · rw [Planned.request?]
    cases l with
    | takeoffEvent id alt => cases hl
    | setWaypoint id e =>
      rcases hnew with ⟨alt,htakeoff⟩|⟨m,_,hmission⟩
      · rw [htakeoff]
        rfl
      · rw [hmission]
        rfl
    | setPosVel id e =>
      obtain ⟨parent,hposVel⟩ := hnew
      rw [hposVel]
      rfl
    | detect cooling =>
      obtain ⟨parent,hfollow⟩ := hnew
      rw [hfollow]
      rfl
    | _ => cases hnew

/-- A step that answers at most the request with the given number, possibly more than once. -/
structure Reply (n : ℕ) (s t : Engine R) : Prop where
  /-- No takeoff with an unsettled request is left active. -/
  settled : t.active.settled=true
  /-- Only answers to that request are added. -/
  answers : ∃ results : List (Except String String),t.answers=results.map (Prod.mk n)++s.answers
  /-- The record is continued. -/
  log : s.log<:+t.log

/-- A step that answers a takeoff request for good. -/
structure Settles (id : ℕ) (s t : Engine R) : Prop where
  /-- No takeoff with an unsettled request is left active. -/
  settled : t.active.settled=true
  /-- Nothing planned comes from a request any more. -/
  queue : NoRequest t.queue
  /-- The answer is true. -/
  answers : ∃ result,t.answers=(id,result)::s.answers ∧
    ∀ text,result=.ok text → Started id t.log
  /-- The record is continued. -/
  log : s.log<:+t.log

section

variable {s t : Engine R} {n id : ℕ}

theorem Silent.reply (h : Silent s t) (n : ℕ) : Reply n s t :=
  ⟨h.settled,⟨[],h.answers⟩,h.log⟩

/-- A reply and then a further answer. -/
theorem Reply.replied (h : Reply n s t) (result : Except String String) :
    Reply n s (t.answer n result) := by
  obtain ⟨results,hanswers⟩ := h.answers
  exact ⟨h.settled,⟨result::results,congrArg (List.cons (n,result)) hanswers⟩,h.log⟩

/-- A silent step and then an answer. -/
theorem Silent.replied (h : Silent s t) (n : ℕ) (result : Except String String) :
    Reply n s (t.answer n result) :=
  (h.reply n).replied result

/-- A silent step and then an answer, if it is reached. -/
theorem Silent.resolved (h : Silent s t) (n : ℕ) (before : Engine R) :
    Reply n s (resolveStarted n before t) :=
  resolveStarted_keeps n before t (h.reply n) (h.replied n _)

/-- An answer and then a silent step. -/
theorem Silent.reply_first {result : Except String String}
    (h : Silent (s.answer n result) t) : Reply n s t :=
  ⟨h.settled,⟨[result],h.answers⟩,h.log⟩

/-- Two requests cannot both wait. -/
theorem WaitsToArm.unique {id' : ℕ} (h : WaitsToArm id s) (h' : WaitsToArm id' s) : id=id' := by
  obtain ⟨_,alt,hq⟩ := h
  obtain ⟨_,alt',hq'⟩ := h'
  rw [hq] at hq'
  cases hq'
  rfl

/-- A waiting request is no empty queue. -/
theorem WaitsToArm.not_noRequest (h : WaitsToArm id s) : ¬NoRequest s.queue := by
  obtain ⟨_,alt,hq⟩ := h
  intro hnone
  rw [hq] at hnone
  cases hnone _ List.mem_cons_self

/-- Entering the takeoff of a request settles it. -/
theorem enterTakeoff_settles (hs : s.active.settled=true) (hq : NoRequest s.queue)
    (p : Planned R) (hp : p.request?=some id) (alt : R) :
    Settles id s ((s.emit (.ran p)).enterTakeoff (some id) alt) := by
  have hqueue : NoRequest ((s.emit (.ran p)).enterTakeoff (some id) alt).queue := by
    rw [enterTakeoff_queue]
    exact hq
  have hgoto := ((Silent.refl hs).emit (.ran p)).goto (a := .takeoff (some id) true alt) rfl
  dsimp only [enterTakeoff] at hqueue ⊢
  by_cases hok : (s.emit (.ran p)).ctx.takeoffOk=true
  · rw [if_pos hok] at hqueue ⊢
    refine ⟨rfl,hqueue,⟨.ok "OK",congrArg (List.cons _) hgoto.answers,fun _ _ => ?_⟩,
      (List.suffix_cons _ _).trans (List.suffix_cons _ _)⟩
    exact ⟨[],_,p,s.log,rfl,hp⟩
  · rw [if_neg hok] at hqueue ⊢
    have hout := (Silent.refl (s := ((s.emit (.ran p)).goto
      (.takeoff (some id) true alt)).answer id (.error "takeoff cmd error")) rfl).groundOrHover
    exact ⟨hout.settled,hqueue,⟨_,hout.answers.trans (congrArg (List.cons _) hgoto.answers),
      fun _ h => (nomatch h)⟩,hgoto.log.trans hout.log⟩

variable [Field R] {pf : Platform R}

variable (pf) in
/-- Running a requested takeoff settles the request, or leaves it waiting for the
vehicle to be armed. -/
theorem advance_requested {alt : R} (hs : s.active.settled=true)
    (hq : s.queue=[⟨.takeoff (some id) alt,false⟩]) :
    (Silent s (s.advance pf) ∧ WaitsToArm id (s.advance pf)) ∨ Settles id s (s.advance pf) := by
  have hempty : Silent s { s with queue := [] } := (Silent.refl hs).plan [] s.fallback
  dsimp only [advance]
  rw [hq]
  dsimp only [request]
  split
  · refine Or.inl ⟨(hempty.goto (a := .arm) rfl).plan _ _,rfl,alt,rfl⟩
  · refine Or.inr ?_
    have hsettles := enterTakeoff_settles (s := { s with queue := [] }) hs
      (fun _ hp => (nomatch hp)) ⟨.takeoff (some id) alt,false⟩ rfl alt
    exact ⟨hsettles.settled,hsettles.queue,hsettles.answers,hsettles.log⟩

variable (id pf) in
/-- A takeoff request that finds none waiting waits or is settled. -/
theorem onTakeoff_requested (hs : s.active.settled=true) (hq : NoRequest s.queue) (alt : R) :
    (Silent s (s.onTakeoff pf id alt) ∧ WaitsToArm id (s.onTakeoff pf id alt)) ∨
      Settles id s (s.onTakeoff pf id alt) := by
  dsimp only [onTakeoff]
  split
  · exact Or.inr ⟨hs,hq,⟨_,rfl,fun _ h => (nomatch h)⟩,List.suffix_rfl⟩
  · rcases advance_requested pf (s := { s with
      queue := [⟨.takeoff (some id) alt,false⟩], fallback := some .hover }) hs rfl with
      ⟨hsilent,hwaits⟩|hsettles
    · exact Or.inl ⟨⟨hsilent.settled,hsilent.answers,hsilent.log⟩,hwaits⟩
    · exact Or.inr ⟨hsettles.settled,hsettles.queue,hsettles.answers,hsettles.log⟩

/-- An accepted mission answers no takeoff request. -/
theorem startMission_silent (hs : s.active.settled=true) (e : SetWaypointEvent R)
    (m : AcceptedMission R) : Silent s (s.startMission pf e m) := by
  have h := Silent.refl hs
  dsimp only [startMission]
  split
  · exact h.goto rfl
  · exact (h.plan _ _).advance (noRequest_missionPlan s.active.isGround (takeoffAlt e) m)

variable (pf) in
/-- Without a request in the queue, any other label answers at most itself. -/
theorem step_reply (hs : s.active.settled=true) (hq : NoRequest s.queue) {l : Label R}
    (hl : l.isTakeoff=false) : Reply n s (Engine.step pf s (l.numbered n)) := by
  have h := Silent.refl hs
  have hanswer : ∀ result,Silent (s.answer n result) (s.answer n result) :=
    fun _ => Silent.refl hs
  cases l with
  | sense x => exact ⟨hs,⟨[],rfl⟩,List.suffix_rfl⟩
  | listenerTick =>
    dsimp only [Label.numbered,Engine.step]
    rcases listenerTick_cases s with heq|heq <;> rw [heq]
    · exact h.reply n
    · exact h.toGround.reply n
  | tick o => exact (Silent.tick hs hq o).reply n
  | takeoffEvent id alt => cases hl
  | setWaypoint id e =>
    dsimp only [Label.numbered,Engine.step,onSetWaypoint]
    split
    · exact h.replied n _
    · exact (startMission_silent hs e _).replied n _
  | setPosVel id e =>
    have hpush : ∀ parent,NoRequest (s.queue++[(⟨.posVel parent e,false⟩ : Planned R)]) :=
      fun parent => List.forall_mem_append.mpr ⟨hq,List.forall_mem_singleton.mpr rfl⟩
    dsimp only [Label.numbered,Engine.step,onSetPosVel]
    split
    · exact ((hanswer _).moveTo e).reply_first
    · exact ((h.plan _ s.fallback).advance (hpush .waypoint)).resolved n s
    · exact ((h.plan _ (some .hover)).advance (hpush .hover)).resolved n s
    · exact h.replied n _
  | landEvent id doPland =>
    dsimp only [Label.numbered,Engine.step,onLand]
    split
    · exact h.replied n _
    · exact ((hanswer _).goto rfl).reply_first
  | restart => exact ⟨rfl,⟨[],(h.goto (a := .init) rfl).answers⟩,List.suffix_cons _ _⟩
  | armEvent armed =>
    dsimp only [Label.numbered,Engine.step]
    rcases onArm_cases pf s armed with heq|⟨_,heq⟩ <;> rw [heq]
    · exact h.reply n
    · exact (h.advance hq).reply n
  | statusText text =>
    dsimp only [Label.numbered,Engine.step]
    rcases onStatusText_cases pf s text with heq|⟨_,heq⟩ <;> rw [heq]
    · exact h.reply n
    · exact ((h.plan (s.queue.map abandon) s.fallback).groundOrHover).reply n
  | detect cooling =>
    dsimp only [Label.numbered,Engine.step]
    rcases onDetect_cases pf s cooling with heq|⟨_,parent,_,heq⟩ <;> rw [heq]
    · exact h.reply n
    · exact (h.request rfl).reply n
  | stopFollow id =>
    dsimp only [Label.numbered,Engine.step,onStopFollow]
    split
    · exact (hanswer _).resume.reply_first
    · exact h.replied n _
  | loiter id =>
    dsimp only [Label.numbered,Engine.step,onLoiter]
    split
    · exact ((h.goto rfl).replied n _).replied _
    · exact h.replied n _

/-- While a request waits, a guarded step leaves it waiting or settles it. -/
theorem step_waiting {d : Desk R} (hs : d.engine.active.settled=true)
    (hwait : WaitsToArm id d.engine) {l : Label R} (hok : LetsItArm pf d l) :
    (Reply d.arrived d.engine (Engine.step pf d.engine (l.numbered d.arrived)) ∧
      WaitsToArm id (Engine.step pf d.engine (l.numbered d.arrived))) ∨
    Settles id d.engine (Engine.step pf d.engine (l.numbered d.arrived)) := by
  have h := Silent.refl hs
  obtain ⟨harm,alt,hq⟩ := hwait
  have hguard := hok ⟨id,harm,alt,hq⟩
  have hkept : ∀ result,WaitsToArm id (d.engine.answer d.arrived result) :=
    fun _ => ⟨harm,alt,hq⟩
  have hstays : Reply d.arrived d.engine d.engine ∧ WaitsToArm id d.engine :=
    ⟨h.reply d.arrived,harm,alt,hq⟩
  cases l with
  | sense x => exact Or.inl ⟨⟨hs,⟨[],rfl⟩,List.suffix_rfl⟩,harm,alt,hq⟩
  | listenerTick =>
    dsimp only [Label.numbered,Engine.step,listenerTick]
    rw [harm]
    exact Or.inl hstays
  | tick o =>
    dsimp only [Label.numbered,Engine.step,Engine.tick]
    rw [harm]
    dsimp only
    rw [if_neg (by rw [hguard]; exact Bool.false_ne_true)]
    exact Or.inl hstays
  | takeoffEvent _ _ => exact hguard.elim
  | setWaypoint _ e =>
    obtain ⟨text,hrejected⟩ := hguard
    dsimp only [Label.numbered,Engine.step,onSetWaypoint]
    split
    · exact Or.inl ⟨h.replied d.arrived _,hkept _⟩
    · rename_i hacc
      rw [hrejected] at hacc
      cases hacc
  | setPosVel _ e =>
    dsimp only [Label.numbered,Engine.step,onSetPosVel]
    rw [harm]
    exact Or.inl ⟨h.replied d.arrived _,hkept _⟩
  | landEvent _ _ => exact hguard.elim
  | restart => exact hguard.elim
  | armEvent armed =>
    dsimp only [Label.numbered,Engine.step,onArm]
    rw [harm]
    dsimp only
    split
    · rcases advance_requested pf hs hq with ⟨hsilent,hwaits⟩|hsettles
      · exact Or.inl ⟨hsilent.reply d.arrived,hwaits⟩
      · exact Or.inr hsettles
    · exact Or.inl hstays
  | statusText text =>
    dsimp only [Label.numbered,Engine.step,onStatusText]
    rw [harm]
    dsimp only
    rw [if_neg (by rw [hguard]; exact Bool.false_ne_true)]
    exact Or.inl hstays
  | detect cooling =>
    dsimp only [Label.numbered,Engine.step,onDetect]
    rw [harm]
    split <;> exact Or.inl hstays
  | stopFollow _ =>
    dsimp only [Label.numbered,Engine.step,onStopFollow]
    rw [harm]
    exact Or.inl ⟨h.replied d.arrived _,hkept _⟩
  | loiter _ =>
    dsimp only [Label.numbered,Engine.step,onLoiter]
    rw [if_neg (by rw [hguard]; exact Bool.false_ne_true)]
    exact Or.inl ⟨h.replied d.arrived _,hkept _⟩

end

/-- Run invariant: every takeoff request is answered or waits, and the numbers of
requests and answers are those that have been given out. -/
structure Accounted (d : Desk R) : Prop where
  /-- No takeoff with an unsettled request is active. -/
  settled : d.engine.active.settled=true
  /-- Requests have numbers given out. -/
  below : ∀ id∈d.takeoffs,id<d.arrived
  /-- So have answers. -/
  answersBelow : ∀ a∈d.engine.answers,a.1<d.arrived
  /-- No number is given out twice. -/
  distinct : d.takeoffs.Nodup
  /-- Nothing planned comes from a request, or the latest request waits. -/
  queue : NoRequest d.engine.queue ∨ ∃ id,d.takeoffs.head?=some id ∧ WaitsToArm id d.engine
  /-- Success is answered only if the robot accepted the takeoff. -/
  truthful : ∀ id∈d.takeoffs,∀ text,(id,.ok text)∈d.engine.answers → Started id d.engine.log
  /-- Every request is answered or waits. -/
  pending : ∀ id∈d.takeoffs,(∃ result,(id,result)∈d.engine.answers) ∨ WaitsToArm id d.engine

namespace Accounted

variable {d : Desk R} {t : Engine R} {id : ℕ}

/-- A waiting request is the latest. -/
theorem latest (h : Accounted d) (hwait : WaitsToArm id d.engine) : d.takeoffs.head?=some id := by
  rcases h.queue with hnone|⟨id',hlatest,hwait'⟩
  · exact absurd hnone hwait.not_noRequest
  · rw [hlatest,hwait'.unique hwait]

/-- Where nothing planned comes from a request, every request is answered. -/
theorem all_answered (h : Accounted d) (hq : NoRequest d.engine.queue) :
    ∀ id∈d.takeoffs,∃ result,(id,result)∈d.engine.answers := by
  intro id hid
  rcases h.pending id hid with hanswered|hwait
  · exact hanswered
  · exact absurd hq hwait.not_noRequest

/-- An answer to something else keeps the account. -/
theorem reply (h : Accounted d) (hr : Reply d.arrived d.engine t)
    (hwait : ∀ id,WaitsToArm id d.engine → WaitsToArm id t)
    (hq : NoRequest t.queue ∨ ∃ id,d.takeoffs.head?=some id ∧ WaitsToArm id t) :
    Accounted ⟨t,d.arrived+1,d.takeoffs⟩ := by
  have hold : ∀ a∈t.answers,a∈d.engine.answers ∨ a.1=d.arrived := by
    intro a ha
    obtain ⟨results,hmore⟩ := hr.answers
    rw [hmore] at ha
    rcases List.mem_append.mp ha with ha|ha
    · obtain ⟨result,_,rfl⟩ := List.mem_map.mp ha
      exact Or.inr rfl
    · exact Or.inl ha
  have hkept : ∀ a∈d.engine.answers,a∈t.answers := by
    intro a ha
    obtain ⟨results,hmore⟩ := hr.answers
    rw [hmore]
    exact List.mem_append_right _ ha
  refine ⟨hr.settled,fun id hid => ?_,fun a ha => ?_,h.distinct,hq,fun id hid text ha => ?_,
    fun id hid => ?_⟩
  · have hbelow := h.below id hid
    dsimp only
    omega
  · dsimp only
    rcases hold a ha with hbefore|hnow
    · have hbelow := h.answersBelow a hbefore
      omega
    · omega
  · rcases hold _ ha with hbefore|hnow
    · exact (h.truthful id hid text hbefore).mono hr.log
    · have hbelow := h.below id hid
      dsimp only at hnow
      omega
  · rcases h.pending id hid with ⟨result,ha⟩|hw
    · exact Or.inl ⟨result,hkept _ ha⟩
    · exact Or.inr (hwait id hw)

/-- So does the answer to the only request without one. -/
theorem settle (h : Accounted d) {takeoffs : List ℕ} (ht : Settles id d.engine t)
    (hnew : takeoffs.Nodup) (hid : id<d.arrived+1)
    (hmem : ∀ id'∈takeoffs,id'=id ∨
      id'∈d.takeoffs ∧ ∃ result,(id',result)∈d.engine.answers)
    (hfresh : ∀ text,(id,.ok text)∈d.engine.answers → Started id t.log) :
    Accounted ⟨t,d.arrived+1,takeoffs⟩ := by
  obtain ⟨result,hanswers,htrue⟩ := ht.answers
  have hkept : ∀ a∈d.engine.answers,a∈t.answers := by
    rw [hanswers]
    exact fun _ ha => List.mem_cons_of_mem _ ha
  refine ⟨ht.settled,fun id' hid' => ?_,fun a ha => ?_,hnew,Or.inl ht.queue,
    fun id' hid' text ha => ?_,fun id' hid' => ?_⟩
  · rcases hmem id' hid' with rfl|⟨hold,_⟩
    · exact hid
    · have hbelow := h.below id' hold
      dsimp only
      omega
  · rw [hanswers] at ha
    rcases List.mem_cons.mp ha with rfl|ha
    · exact hid
    · have hbelow := h.answersBelow a ha
      dsimp only
      omega
  · rw [hanswers] at ha
    rcases List.mem_cons.mp ha with hnow|hbefore
    · obtain ⟨rfl,hresult⟩ := Prod.ext_iff.mp hnow
      exact htrue text hresult.symm
    · rcases hmem id' hid' with rfl|⟨hold,_⟩
      · exact hfresh text hbefore
      · exact (h.truthful id' hold text hbefore).mono ht.log
  · rcases hmem id' hid' with rfl|⟨_,result',ha⟩
    · exact Or.inl ⟨result,by rw [hanswers]; exact List.mem_cons_self⟩
    · exact Or.inl ⟨result',hkept _ ha⟩

variable [Field R] {pf : Platform R}

/-- A takeoff request is entered into the account. -/
theorem request (h : Accounted d) (hnone : NoRequest d.engine.queue) (alt : R) :
    Accounted ⟨d.engine.onTakeoff pf d.arrived alt,d.arrived+1,d.arrived::d.takeoffs⟩ := by
  have hunseen : d.arrived∉d.takeoffs := by
    intro hmem
    have hbelow := h.below _ hmem
    omega
  have hnew : (d.arrived::d.takeoffs).Nodup := List.nodup_cons.mpr ⟨hunseen,h.distinct⟩
  have hunanswered : ∀ result,(d.arrived,result)∉d.engine.answers := by
    intro result ha
    have hbelow := h.answersBelow _ ha
    dsimp only at hbelow
    omega
  rcases onTakeoff_requested d.arrived pf h.settled hnone alt with
    ⟨hsilent,hwaits⟩|hsettles
  · refine ⟨hsilent.settled,fun id hid => ?_,fun a ha => ?_,hnew,
      Or.inr ⟨d.arrived,rfl,hwaits⟩,fun id hid text ha => ?_,fun id hid => ?_⟩
    · dsimp only
      rcases List.mem_cons.mp hid with rfl|hid
      · omega
      · have hbelow := h.below id hid
        omega
    · dsimp only at ha ⊢
      rw [hsilent.answers] at ha
      have hbelow := h.answersBelow a ha
      omega
    · dsimp only at ha
      rw [hsilent.answers] at ha
      rcases List.mem_cons.mp hid with rfl|hid
      · exact absurd ha (hunanswered _)
      · exact (h.truthful id hid text ha).mono hsilent.log
    · rcases List.mem_cons.mp hid with rfl|hid
      · exact Or.inr hwaits
      · obtain ⟨result,ha⟩ := h.all_answered hnone id hid
        refine Or.inl ⟨result,?_⟩
        dsimp only
        rwa [hsilent.answers]
  · refine h.settle hsettles hnew (by omega) (fun id hid => ?_)
      (fun text ha => absurd ha (hunanswered _))
    rcases List.mem_cons.mp hid with rfl|hid
    · exact Or.inl rfl
    · exact Or.inr ⟨hid,h.all_answered hnone id hid⟩

/-- Every guarded step keeps the account. -/
theorem step (h : Accounted d) {l : Label R} (hok : LetsItArm pf d l) :
    Accounted (d.step pf l) := by
  dsimp only [Desk.step]
  cases hl : l.isTakeoff with
  | true =>
    cases l with
    | takeoffEvent _ alt =>
      refine h.request (h.queue.resolve_right ?_) alt
      rintro ⟨id,_,hwait⟩
      exact hok ⟨id,hwait⟩
    | _ => cases hl
  | false =>
    rcases h.queue with hnone|⟨id,hlatest,hwait⟩
    · have hnumbered : (l.numbered d.arrived).isTakeoff=false := by
        cases l <;> exact hl
      exact h.reply (step_reply pf h.settled hnone hl)
        (fun id hwait => absurd hnone hwait.not_noRequest)
        (Or.inl (noRequest_step pf hnone hnumbered))
    · have hid : id∈d.takeoffs := List.mem_of_mem_head? hlatest
      rcases step_waiting h.settled hwait hok with ⟨hreply,hwait'⟩|hsettles
      · refine h.reply hreply (fun id' hwaits => ?_) (Or.inr ⟨id,hlatest,hwait'⟩)
        rwa [hwaits.unique hwait]
      · have hbelow := h.below id hid
        refine h.settle hsettles h.distinct (by omega) (fun id' hid' => ?_)
          (fun text ha => (h.truthful id hid text ha).mono hsettles.log)
        rcases h.pending id' hid' with hanswered|hwaits
        · exact Or.inr ⟨hid',hanswered⟩
        · exact Or.inl (hwaits.unique hwait)

omit [Field R] in
/-- The account answers every request, and truthfully. -/
theorem takeoffsAnswered (h : Accounted d) : TakeoffsAnswered d := by
  refine ⟨h.truthful,fun id hid => ?_,fun id hid => ?_,fun p hp habandoned id hrequest => ?_⟩
  · exact (h.pending id hid).imp_right fun hwait => ⟨h.latest hwait,hwait⟩
  · have hmem : id∈d.takeoffs := List.mem_of_mem_tail hid
    rcases h.pending id hmem with ⟨result,ha⟩|hwait
    · cases result with
      | error text => exact Or.inl ⟨text,ha⟩
      | ok text => exact Or.inr (h.truthful id hmem text ha)
    · have hlatest := h.latest hwait
      have hdistinct := h.distinct
      cases htakeoffs : d.takeoffs with
      | nil =>
        rw [htakeoffs] at hmem
        cases hmem
      | cons latest rest =>
        rw [htakeoffs] at hid hlatest hdistinct
        obtain rfl : latest=id := Option.some.inj hlatest
        exact absurd hid (List.nodup_cons.mp hdistinct).1
  · rcases h.queue with hnone|⟨_,_,_,alt,hq⟩
    · rw [hnone p hp] at hrequest
      cases hrequest
    · rw [hq] at hp
      rw [List.mem_singleton.mp hp] at habandoned
      cases habandoned

end Accounted

/-- The desk after power-on. -/
def desk (x : Sensors R) : Desk R := { engine := initial x }

/-- In every run in which nothing drops a takeoff request while it waits for the
vehicle to be armed, every takeoff request is answered, and truthfully. -/
theorem takeoffs_answered [Field R] (pf : Platform R) (x : Sensors R) (labels : List (Label R))
    (hg : Guarded (Desk.step pf) (LetsItArm pf) (desk x) labels) :
    TakeoffsAnswered (runFrom (Desk.step pf) (desk x) labels) := by
  have hstart : Accounted (desk x) :=
    ⟨rfl,fun _ h => (nomatch h),fun _ h => (nomatch h),List.nodup_nil,
      Or.inl fun _ h => (nomatch h),fun _ h => (nomatch h),fun _ h => (nomatch h)⟩
  exact (guarded_invariant (fun _ _ h hok => h.step hok) labels hstart hg).takeoffsAnswered

/-- Reports of a disarmed vehicle on the ground. -/
def disarmed : Sensors ℚ := { hovering with arm := false, checkHover := false }

/-- A takeoff request on the ground that waits until the vehicle is armed. -/
def armedTakeoff : List (Label ℚ) :=
  [.sense disarmed,.tick {},.takeoffEvent 0 10,.sense hovering,.armEvent true]

/-- A takeoff request whose arming times out. -/
def lostTakeoff : List (Label ℚ) :=
  [.sense disarmed,.tick {},.takeoffEvent 0 10,.tick { timedOut := true }]

/-- The request that waited is answered, and truthfully. -/
theorem armedTakeoff_answered :
    TakeoffsAnswered (runFrom (Desk.step armingPlatform) (desk hovering) armedTakeoff) ∧
      ∃ result,(2,result)∈
        (runFrom (Desk.step armingPlatform) (desk hovering) armedTakeoff).engine.answers := by
  refine ⟨takeoffs_answered armingPlatform hovering armedTakeoff
    ⟨fun _ => trivial,fun _ => rfl,?_,fun _ => trivial,fun _ => trivial,trivial⟩,
    _,List.mem_cons_self⟩
  rintro ⟨id,harm,_⟩
  cases harm

/-- The request whose arming timed out is neither answered nor waiting, so not every
takeoff request is answered. -/
theorem lostTakeoff_unanswered :
    ¬∀ (pf : Platform ℚ) (x : Sensors ℚ) (labels : List (Label ℚ)),
      TakeoffsAnswered (runFrom (Desk.step pf) (desk x) labels) := by
  intro h
  rcases (h armingPlatform hovering lostTakeoff).pending 2 List.mem_cons_self with
    ⟨result,hanswer⟩|⟨_,harm,_⟩
  · cases hanswer
  · cases harm

end Dankong.Flight

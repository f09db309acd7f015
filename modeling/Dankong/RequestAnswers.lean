import Dankong.TakeoffRequests
import Mathlib.Algebra.Order.Group.Multiset
import Mathlib.Data.Multiset.UnionInter

/-!
# How often requests are answered

The requests here are those that move the flight states: takeoffs, missions, point
commands, landings, the end of following and loitering. The number of a request is handed
on: from the event to the plan, from there to an answer. A step may lose the number of a
takeoff on the way, but nothing copies one, except that a request to loiter in the air is
answered twice. Hence there is at most one answer to each other request, whatever is
aborted or superseded. Requests other than takeoffs are answered by the step that takes
them in.
-/

namespace Dankong.Flight

open Engine Runs

variable {R : Type*}

namespace Engine

/-- The numbers the engine holds: those it has answered, and those of planned takeoffs. -/
def held (s : Engine R) : Multiset ℕ :=
  ↑(s.answers.map Prod.fst)+↑(s.queue.filterMap Planned.request?)

/-- What is answered is held. -/
theorem answered_le_held (s : Engine R) : ↑(s.answers.map Prod.fst) ≤ s.held :=
  Multiset.le_add_right _ _

end Engine

/-- A step that takes fresh numbers in, copies none and keeps the answers. -/
structure Conserves (fresh : Multiset ℕ) (s t : Engine R) : Prop where
  /-- No takeoff with an unsettled request is left active. -/
  settled : t.active.settled=true
  /-- Every number held afterwards was held before or is fresh. -/
  held : t.held ≤ fresh+s.held
  /-- The answers are continued. -/
  answers : s.answers<:+t.answers
  /-- So is the record. -/
  log : s.log<:+t.log

namespace Conserves

variable {s t u : Engine R} {fresh more : Multiset ℕ}

/-- Step after step. -/
theorem trans (h : Conserves fresh s t) (h' : Conserves more t u) :
    Conserves (fresh+more) s u where
  settled := h'.settled
  held := calc
    u.held ≤ more+t.held := h'.held
    _ ≤ more+(fresh+s.held) := add_le_add le_rfl h.held
    _ = fresh+more+s.held := by rw [←add_assoc,add_comm more fresh]
  answers := h.answers.trans h'.answers
  log := h.log.trans h'.log

/-- A step before it that takes nothing in. -/
theorem after (h : Conserves 0 s t) (h' : Conserves more t u) : Conserves more s u := by
  have hboth := h.trans h'
  rwa [zero_add] at hboth

/-- A step behind it that takes nothing in. -/
theorem before (h : Conserves fresh s t) (h' : Conserves 0 t u) : Conserves fresh s u := by
  have hboth := h.trans h'
  rwa [add_zero] at hboth

/-- A step that takes nothing in might take anything in. -/
theorem slack (h : Conserves 0 s t) (fresh : Multiset ℕ) : Conserves fresh s t :=
  ⟨h.settled,h.held.trans (add_le_add (Multiset.zero_le fresh) le_rfl),h.answers,h.log⟩

/-- A silent step that leaves the planned requests conserves the numbers. -/
theorem of_silent (h : Silent s t)
    (hq : t.queue.filterMap Planned.request?=s.queue.filterMap Planned.request?) :
    Conserves 0 s t where
  settled := h.settled
  held := by rw [Engine.held,Engine.held,h.answers,hq,zero_add]
  answers := h.answers ▸ List.suffix_rfl
  log := h.log

/-- So does a silent step that leaves the plan. -/
theorem of_queue (h : Silent s t) (hq : t.queue=s.queue) : Conserves 0 s t :=
  of_silent h (congrArg _ hq)

theorem refl (hs : s.active.settled=true) : Conserves 0 s s := of_queue (.refl hs) rfl

/-- An answer takes the number of its request. -/
theorem answer (hs : s.active.settled=true) (id : ℕ) (result : Except String String) :
    Conserves {id} s (s.answer id result) where
  settled := hs
  held := by
    have hmap : (s.answer id result).answers.map Prod.fst=id::s.answers.map Prod.fst := rfl
    rw [Engine.held,hmap,←Multiset.cons_coe,Engine.held,←add_assoc,Multiset.singleton_add]
    rfl
  answers := List.suffix_cons _ _
  log := List.suffix_rfl

/-- A new plan takes the numbers of its requests; those of the old plan are lost. -/
theorem plan (hs : s.active.settled=true) (queue : List (Planned R)) (fallback : Option Fallback) :
    Conserves ↑(queue.filterMap Planned.request?) s
      { s with queue := queue, fallback := fallback } where
  settled := hs
  held := by
    rw [Engine.held,Engine.held,add_comm,Multiset.add_le_add_iff_left]
    exact Multiset.le_add_right _ _
  answers := List.suffix_rfl
  log := List.suffix_rfl

/-- The front of the plan gives its number away. -/
theorem pop {p : Planned R} {rest : List (Planned R)} (hq : s.queue=p::rest) :
    s.held=↑p.request?.toList+{ s with queue := rest }.held := by
  have hfront : (p::rest).filterMap Planned.request?=
      p.request?.toList++rest.filterMap Planned.request? := by
    rw [List.filterMap_cons]
    cases p.request? <;> rfl
  rw [Engine.held,Engine.held,hq,hfront,←Multiset.coe_add,add_left_comm]

/-- A takeoff answers its request. -/
theorem enterTakeoff (hs : s.active.settled=true) (event : Option ℕ) (alt : R) :
    Conserves ↑event.toList s (s.enterTakeoff event alt) := by
  cases event with
  | none => exact of_queue ((Silent.refl hs).enterTakeoff_none alt) (enterTakeoff_queue s none alt)
  | some id =>
    have hgoto := (Silent.refl hs).goto (a := .takeoff (some id) true alt) rfl
    dsimp only [Engine.enterTakeoff]
    split
    · have hrecord : Silent s { s.goto (.takeoff (some id) true alt) with
          ctx := { s.ctx with takeoffEnu := some { s.ctx.posEnu with z := alt } }
          log := .takeoffStarted { s.ctx.posEnu with z := alt }::s.log } :=
        ⟨rfl,hgoto.answers,List.suffix_cons _ _⟩
      exact (of_queue hrecord (goto_queue s (.takeoff (some id) true alt))).after
        (answer hrecord.settled id (.ok "OK"))
    · have hrefused := (of_queue hgoto (goto_queue s _)).after
        (answer hgoto.settled id (.error "takeoff cmd error"))
      exact hrefused.before (of_queue (Silent.groundOrHover (.refl hrefused.settled))
        (groundOrHover_queue _))

/-- Giving up marks the plan and keeps its numbers. -/
theorem giveUp (hs : s.active.settled=true) : Conserves 0 s s.giveUp := by
  have hmarks : (s.queue.map abandon).filterMap Planned.request?=
      s.queue.filterMap Planned.request? := by
    rw [List.filterMap_map]
    rfl
  have hmarked : Silent s { s with queue := s.queue.map abandon } :=
    (Silent.refl hs).plan (s.queue.map abandon) s.fallback
  have hqueue : s.giveUp.queue=s.queue.map abandon := groundOrHover_queue _
  exact of_silent hmarked.groundOrHover ((congrArg _ hqueue).trans hmarks)

variable [Field R] (pf : Platform R)

/-- A planned state that is entered answers its request. -/
theorem enterTarget (hs : s.active.settled=true) (p : Planned R) :
    Conserves ↑p.request?.toList s (s.enterTarget pf p) := by
  cases hp : p.request? with
  | none => exact of_queue (Silent.enterTarget (.refl hs) hp) (enterTarget_queue s pf p)
  | some id =>
    obtain ⟨target,abandoned⟩ := p
    cases target with
    | takeoff event alt =>
      obtain rfl : event=some id := hp
      have hemit := (Silent.refl hs).emit (.ran ⟨.takeoff (some id) alt,abandoned⟩)
      exact (of_queue hemit rfl).after (enterTakeoff hemit.settled (some id) alt)
    | _ => cases hp

/-- So does one that waits for the vehicle to be armed. -/
theorem request (hs : s.active.settled=true) (p : Planned R) :
    Conserves ↑p.request?.toList s (s.request pf p) := by
  dsimp only [Engine.request]
  split
  · have hgoto := (Silent.refl hs).goto (a := .arm) rfl
    have hpop := pop (s := { s.goto .arm with queue := p::s.queue }) rfl
    have hheld : ({ s.goto .arm with queue := s.queue } : Engine R).held=s.held := by
      rw [Engine.held,Engine.held]
      exact congrArg (fun a : List (ℕ×Except String String) =>
        ((a.map Prod.fst : List ℕ) : Multiset ℕ)+↑(s.queue.filterMap Planned.request?)) hgoto.answers
    exact ⟨rfl,(hpop.trans (congrArg _ hheld)).le,hgoto.answers ▸ List.suffix_rfl,hgoto.log⟩
  · exact enterTarget pf hs p

/-- Running the front of the plan. -/
theorem advance (hs : s.active.settled=true) : Conserves 0 s (s.advance pf) := by
  have h := Silent.refl hs
  dsimp only [Engine.advance]
  split
  · rename_i p rest hq
    have hrun := request pf (s := { s with queue := rest }) hs p
    exact ⟨hrun.settled,by rw [pop hq,zero_add]; exact hrun.held,hrun.answers,hrun.log⟩
  · split
    · exact of_queue (h.goto rfl) (goto_queue s _)
    · exact of_queue (h.goto rfl) (goto_queue s _)
    · exact refl hs

/-- A tick of an interruption. -/
theorem excursionTick (hs : s.active.settled=true) (x : Excursion R) (o : TickObs) :
    Conserves 0 s (s.excursionTick pf x o) :=
  of_queue (Silent.excursionTick (.refl hs) x o) (excursionTick_queue x o)

/-- A tick of a takeoff that is settled. -/
theorem takeoffTick (hs : s.active.settled=true) (event : Option ℕ) (alt : R) (o : TickObs) :
    Conserves 0 s (s.takeoffTick pf event true alt o) := by
  dsimp only [Engine.takeoffTick]
  rw [if_neg (fun hlate => absurd hlate.2.1 Bool.false_ne_true.symm)]
  split_ifs
  · exact of_queue (Silent.toGround (.refl hs)) (toGround_queue s)
  all_goals first
    | exact advance pf hs
    | exact refl hs

/-- An arrival. -/
theorem arrive (w : WaypointState R) :
    Conserves 0 s (s.arrive pf w) := by
  have hcounted : Silent s { s with
      active := .waypoint w.advance .excute
      log := .progress (w.wpIdx+1) w.wpList.length::s.log } :=
    ⟨rfl,rfl,List.suffix_cons _ _⟩
  unfold Engine.arrive
  dsimp only
  split
  · have hdone := hcounted.emit .taskDone
    exact (of_queue hdone rfl).after (advance pf hdone.settled)
  · exact of_queue (hcounted.enterLifting w.advance) (enterLifting_queue _ _)
  · exact of_queue (hcounted.enterExcute pf w.advance) (enterExcute_queue _ pf _)

/-- A tick of the active state. -/
theorem tick (hs : s.active.settled=true) (o : TickObs) : Conserves 0 s (s.tick pf o) := by
  have h := Silent.refl hs
  dsimp only [Engine.tick]
  split
  · split
    · exact of_queue h.groundOrHover (groundOrHover_queue s)
    · exact refl hs
  · split
    · exact of_queue (h.goto rfl) (goto_queue s _)
    · exact refl hs
  · split
    · exact giveUp hs
    · exact refl hs
  · exact refl hs
  · exact excursionTick pf hs _ o
  · rename_i event settled alt ha
    rw [ha] at hs
    obtain rfl : settled=true := hs
    exact takeoffTick pf (by rw [ha]; rfl) event alt o
  · split
    · exact of_queue h.toGround (toGround_queue s)
    · exact refl hs
  · split
    · exact of_queue (h.enterExcute pf _) (enterExcute_queue s pf _)
    · exact refl hs
  · split
    · exact arrive pf _
    · exact refl hs
  · exact excursionTick pf hs _ o

/-- A takeoff request is planned or refused. -/
theorem onTakeoff (hs : s.active.settled=true) (id : ℕ) (alt : R) :
    Conserves {id} s (s.onTakeoff pf id alt) := by
  dsimp only [Engine.onTakeoff]
  split
  · exact answer hs id (.error "初始状态无法起飞!")
  · have hplan := plan hs [⟨.takeoff (some id) alt,false⟩] (some .hover)
    exact hplan.before (advance pf hplan.settled)

/-- An accepted mission. -/
theorem startMission (hs : s.active.settled=true) (e : SetWaypointEvent R) (m : AcceptedMission R) :
    Conserves 0 s (s.startMission pf e m) := by
  dsimp only [Engine.startMission]
  split
  · exact of_queue (Silent.goto (.refl hs) rfl) (goto_queue s _)
  · have hnone : (missionPlan s.active.isGround (takeoffAlt e) m).filterMap Planned.request?=[] :=
      List.filterMap_eq_nil_iff.mpr (noRequest_missionPlan s.active.isGround (takeoffAlt e) m)
    have hplan := plan hs (missionPlan s.active.isGround (takeoffAlt e) m)
      (some (missionFallback m.event))
    rw [hnone] at hplan
    exact hplan.before (advance pf hplan.settled)

end Conserves

/-- A mission, a point command, a landing, the end of following or a request to loiter: their
handlers answer before they return. -/
def Label.isPrompt : Label R → Bool
  | .setWaypoint .. => true
  | .setPosVel .. => true
  | .landEvent .. => true
  | .stopFollow _ => true
  | .loiter _ => true
  | _ => false

/-- A request to loiter that finds the vehicle in the air. -/
def Label.isAirborne (s : Engine R) : Label R → Bool
  | .loiter _ => s.ctx.checkHover
  | _ => false

/-- A number under a condition. -/
def given (n : ℕ) : Bool → Multiset ℕ
  | true => {n}
  | false => 0

/-- The numbers that a label takes in, one for each answer. -/
def Label.asks (n : ℕ) (s : Engine R) : Label R → Multiset ℕ
  | .takeoffEvent .. => {n}
  | .setWaypoint .. => {n}
  | .setPosVel .. => {n}
  | .landEvent .. => {n}
  | .stopFollow _ => {n}
  | .loiter _ => {n}+given n s.ctx.checkHover
  | _ => 0

/-- They by the kinds of requests. -/
theorem Label.asks_eq (n : ℕ) (s : Engine R) (l : Label R) :
    l.asks n s=given n l.isTakeoff+given n l.isPrompt+given n (l.isAirborne s) := by
  cases l <;> simp [asks,given,isTakeoff,isPrompt,isAirborne]

/-- What a request to loiter in the air is answered with, latest first. -/
def loiterAnswers (n : ℕ) : List (ℕ×Except String String) :=
  [(n,.ok "在地面时无法调用悬停!"),(n,.ok "OK")]

/-- The request is answered. -/
def Answers (n : ℕ) (t : Engine R) : Prop := n∈t.answers.map Prod.fst

/-- A heading could not be normalised, and the program does nothing any more. -/
def Hung (t : Engine R) : Prop := .posVelHung∈t.log

section

variable {s t : Engine R}

/-- An answer stays. -/
theorem Conserves.still {fresh : Multiset ℕ} {n : ℕ} (h : Conserves fresh s t) (hn : Answers n s) :
    Answers n t := (h.answers.map Prod.fst).subset hn

variable [Field R] (pf : Platform R)

omit [Field R] in
/-- The program stays hung. -/
theorem Conserves.hung {fresh : Multiset ℕ} (h : Conserves fresh s t) (hs : Hung s) : Hung t :=
  h.log.subset hs

omit [Field R] in
/-- An answer behind a start comes unless the start hangs. -/
theorem resolveStarted_answers (n : ℕ) (h : Conserves 0 s t) :
    Conserves {n} s (resolveStarted n s t) ∧
      (Answers n (resolveStarted n s t) ∨ Hung (resolveStarted n s t)) := by
  dsimp only [resolveStarted]
  split
  · exact ⟨h.after (.answer h.settled n (.ok "OK")),Or.inl List.mem_cons_self⟩
  · rename_i hmore
    refine ⟨h.slack {n},Or.inr ?_⟩
    by_contra hnot
    have hnone : ∀ {u : Engine R},¬Hung u → u.hangs=0 := by
      intro u hu
      refine List.countP_eq_zero.mpr fun o ho hhung => ?_
      cases o with
      | posVelHung => exact hu ho
      | _ => cases hhung
    exact hmore ((hnone hnot).trans (hnone fun hs => hnot (h.hung hs)).symm)

/-- A mission request is answered at once. -/
theorem onSetWaypoint_answers (hs : s.active.settled=true) (n : ℕ) (e : SetWaypointEvent R) :
    Conserves {n} s (s.onSetWaypoint pf n e) ∧ Answers n (s.onSetWaypoint pf n e) := by
  dsimp only [Engine.onSetWaypoint]
  split
  · exact ⟨.answer hs n _,List.mem_cons_self⟩
  · have hstart := Conserves.startMission pf hs e ⟨_,acceptWaypoint_returnEnu ‹_›⟩
    exact ⟨hstart.after (.answer hstart.settled n (.ok "OK")),List.mem_cons_self⟩

/-- So is a point command, unless its heading cannot be normalised. -/
theorem onSetPosVel_answers (hs : s.active.settled=true) (n : ℕ) (e : SetPosVelEvent R) :
    Conserves {n} s (s.onSetPosVel pf n e) ∧
      (Answers n (s.onSetPosVel pf n e) ∨ Hung (s.onSetPosVel pf n e)) := by
  have hqueue : ∀ (parent : Parent) (fallback : Option Fallback),Conserves 0 s
      { s with queue := s.queue++[(⟨.posVel parent e,false⟩ : Planned R)], fallback := fallback } := by
    intro parent fallback
    refine .of_silent ((Silent.refl hs).plan _ fallback) ?_
    rw [List.filterMap_append]
    exact List.append_nil _
  dsimp only [Engine.onSetPosVel]
  split
  · have hanswer := Conserves.answer hs n (.ok "OK")
    have hsilent : Silent (s.answer n (.ok "OK")) ((s.answer n (.ok "OK")).moveTo pf e) :=
      Silent.moveTo (.refl hanswer.settled) e
    have hmove := Conserves.of_queue hsilent (moveTo_queue (s.answer n (.ok "OK")) pf e)
    exact ⟨hanswer.before hmove,Or.inl (hmove.still List.mem_cons_self)⟩
  · have hplan := hqueue .waypoint s.fallback
    exact resolveStarted_answers n (hplan.after (.advance pf hplan.settled))
  · have hplan := hqueue .hover (some .hover)
    exact resolveStarted_answers n (hplan.after (.advance pf hplan.settled))
  · exact ⟨.answer hs n _,Or.inl List.mem_cons_self⟩

omit [Field R] in
/-- So is a landing. -/
theorem onLand_answers (hs : s.active.settled=true) (n : ℕ) (doPland : Bool) :
    Conserves {n} s (s.onLand n doPland) ∧ Answers n (s.onLand n doPland) := by
  dsimp only [Engine.onLand]
  split
  · exact ⟨.answer hs n _,List.mem_cons_self⟩
  · have hanswer := Conserves.answer hs n (.ok "OK")
    have hgoto := Conserves.of_queue (Silent.goto (a := .land doPland) (.refl hanswer.settled) rfl)
      (goto_queue _ _)
    exact ⟨hanswer.before hgoto,hgoto.still List.mem_cons_self⟩

omit [Field R] in
/-- So is the end of following. -/
theorem onStopFollow_answers (hs : s.active.settled=true) (n : ℕ) :
    Conserves {n} s (s.onStopFollow n) ∧ Answers n (s.onStopFollow n) := by
  dsimp only [Engine.onStopFollow]
  split
  · have hanswer := Conserves.answer hs n (.ok "OK")
    have hresume := Conserves.of_queue (Silent.resume (.refl hanswer.settled)) (resume_queue _)
    exact ⟨hanswer.before hresume,hresume.still List.mem_cons_self⟩
  · exact ⟨.answer hs n _,List.mem_cons_self⟩

omit [Field R] in
/-- So is a request to loiter, in the air with both answers. -/
theorem onLoiter_answers (hs : s.active.settled=true) (n : ℕ) :
    Conserves ({n}+given n s.ctx.checkHover) s (s.onLoiter n) ∧ Answers n (s.onLoiter n) ∧
      (s.ctx.checkHover=true → (s.onLoiter n).answers=loiterAnswers n++s.answers) := by
  have hgoto := (Silent.refl hs).goto (a := .hover none) rfl
  dsimp only [Engine.onLoiter]
  by_cases hair : s.ctx.checkHover=true
  · rw [if_pos hair,hair]
    have hfirst := (Conserves.of_queue hgoto (goto_queue s _)).after
      (.answer hgoto.settled n (.ok "OK"))
    exact ⟨hfirst.trans (.answer hfirst.settled n _),List.mem_cons_self,
      fun _ => congrArg (loiterAnswers n++·) hgoto.answers⟩
  · rw [if_neg hair,Bool.eq_false_iff.mpr hair,given,add_zero]
    exact ⟨.answer hs n _,List.mem_cons_self,fun habs => absurd habs Bool.false_ne_true⟩

/-- A step takes in the number of its request, if there is one, and answers the request
unless it is a takeoff or hangs. -/
theorem step_answers (hs : s.active.settled=true) (n : ℕ) (l : Label R) :
    Conserves (l.asks n s) s (Engine.step pf s (l.numbered n)) ∧
      (l.isPrompt=true → Answers n (Engine.step pf s (l.numbered n)) ∨
        Hung (Engine.step pf s (l.numbered n))) ∧
      (l.isAirborne s=true →
        (Engine.step pf s (l.numbered n)).answers=loiterAnswers n++s.answers) := by
  have h := Silent.refl hs
  cases l with
  | sense x => exact ⟨.of_queue ⟨hs,rfl,List.suffix_rfl⟩ rfl,fun hno => (nomatch hno),fun hno => (nomatch hno)⟩
  | listenerTick =>
    refine ⟨?_,fun hno => (nomatch hno),fun hno => (nomatch hno)⟩
    change Conserves 0 s s.listenerTick
    rcases listenerTick_cases s with heq|heq <;> rw [heq]
    · exact .refl hs
    · exact .of_queue h.toGround (toGround_queue s)
  | tick o => exact ⟨.tick pf hs o,fun hno => (nomatch hno),fun hno => (nomatch hno)⟩
  | takeoffEvent id alt => exact ⟨.onTakeoff pf hs n alt,fun hno => (nomatch hno),fun hno => (nomatch hno)⟩
  | setWaypoint id e =>
    obtain ⟨hkeep,hanswer⟩ := onSetWaypoint_answers pf hs n e
    exact ⟨hkeep,fun _ => Or.inl hanswer,fun hno => (nomatch hno)⟩
  | setPosVel id e =>
    obtain ⟨hkeep,hanswer⟩ := onSetPosVel_answers pf hs n e
    exact ⟨hkeep,fun _ => hanswer,fun hno => (nomatch hno)⟩
  | landEvent id doPland =>
    obtain ⟨hkeep,hanswer⟩ := onLand_answers hs n doPland
    exact ⟨hkeep,fun _ => Or.inl hanswer,fun hno => (nomatch hno)⟩
  | restart =>
    have hgoto := h.goto (a := .init) rfl
    exact ⟨.of_queue ⟨rfl,hgoto.answers,List.suffix_cons _ _⟩ (goto_queue s .init),
      fun hno => (nomatch hno),fun hno => (nomatch hno)⟩
  | armEvent armed =>
    refine ⟨?_,fun hno => (nomatch hno),fun hno => (nomatch hno)⟩
    change Conserves 0 s (s.onArm pf armed)
    rcases onArm_cases pf s armed with heq|⟨_,heq⟩ <;> rw [heq]
    · exact .refl hs
    · exact .advance pf hs
  | statusText text =>
    refine ⟨?_,fun hno => (nomatch hno),fun hno => (nomatch hno)⟩
    change Conserves 0 s (s.onStatusText pf text)
    rcases onStatusText_cases pf s text with heq|⟨_,heq⟩ <;> rw [heq]
    · exact .refl hs
    · exact .giveUp hs
  | detect cooling =>
    refine ⟨?_,fun hno => (nomatch hno),fun hno => (nomatch hno)⟩
    change Conserves 0 s (s.onDetect pf cooling)
    rcases onDetect_cases pf s cooling with heq|⟨_,parent,_,heq⟩ <;> rw [heq]
    · exact .refl hs
    · exact .request pf hs ⟨.follow parent,false⟩
  | stopFollow id =>
    obtain ⟨hkeep,hanswer⟩ := onStopFollow_answers hs n
    exact ⟨hkeep,fun _ => Or.inl hanswer,fun hno => (nomatch hno)⟩
  | loiter id =>
    obtain ⟨hkeep,hanswer,hboth⟩ := onLoiter_answers hs n
    exact ⟨hkeep,fun _ => Or.inl hanswer,hboth⟩

end

/-- A desk that keeps the numbers of all requests. -/
structure Ledger (R : Type*) where
  /-- The desk. -/
  desk : Desk R
  /-- Requests other than takeoffs, latest first. -/
  prompt : List ℕ := []
  /-- Those among them to loiter that found the vehicle in the air. -/
  airborne : List ℕ := []

/-- A number is noted under a condition. -/
def noted (n : ℕ) (c : Bool) (numbers : List ℕ) : List ℕ :=
  if c=true then n::numbers else numbers

/-- An event or tick arrives. -/
def Ledger.step [Field R] (pf : Platform R) (d : Ledger R) (l : Label R) : Ledger R where
  desk := d.desk.step pf l
  prompt := noted d.desk.arrived l.isPrompt d.prompt
  airborne := noted d.desk.arrived (l.isAirborne d.desk.engine) d.airborne

/-- Answers against requests. -/
structure AnsweredOnce (d : Ledger R) : Prop where
  /-- No request has two answers, unless it is one to loiter in the air. -/
  once : ∀ id∉d.airborne,(d.desk.engine.answers.map Prod.fst).count id≤1
  /-- Such a request has both its answers and no other. -/
  twice : ∀ id∈d.airborne,
    d.desk.engine.answers.filter (fun a => a.1==id)=loiterAnswers id
  /-- An answer belongs to a request. -/
  known : ∀ id,Answers id d.desk.engine → id∈d.desk.takeoffs ∨ id∈d.prompt
  /-- Every request but a takeoff is answered, unless a heading could not be normalised. -/
  prompt : ∀ id∈d.prompt,Answers id d.desk.engine ∨ Hung d.desk.engine

/-- Noting a number adds it. -/
theorem coe_noted (n : ℕ) (c : Bool) (numbers : List ℕ) :
    (noted n c numbers : Multiset ℕ)=given n c+numbers := by
  cases c
  · exact (zero_add _).symm
  · exact (Multiset.singleton_add n numbers).symm

/-- What is noted is the number or was there before. -/
theorem mem_noted {n id : ℕ} {c : Bool} {numbers : List ℕ} (h : id∈noted n c numbers) :
    (id=n ∧ c=true) ∨ id∈numbers := by
  cases c
  · exact Or.inr h
  · exact (List.mem_cons.mp h).imp_left fun heq => ⟨heq,rfl⟩

/-- A number that is new keeps the numbers apart. -/
theorem nodup_given_add {n : ℕ} {m : Multiset ℕ} (c : Bool) (hnew : n∉m) (h : m.Nodup) :
    (given n c+m).Nodup := by
  cases c
  · rw [given,zero_add]
    exact h
  · rw [given,Multiset.singleton_add]
    exact Multiset.nodup_cons.mpr ⟨hnew,h⟩

/-- A number above all others keeps them all below the next one. -/
theorem lt_of_mem_given_add {n id : ℕ} {m : Multiset ℕ} {c : Bool} (hm : ∀ id∈m,id<n)
    (h : id∈given n c+m) : id<n+1 := by
  rcases Multiset.mem_add.mp h with hnow|hold
  · cases c
    · exact absurd hnow (Multiset.notMem_zero _)
    · exact Nat.lt_succ_iff.mpr (Multiset.mem_singleton.mp hnow).le
  · exact (hm id hold).trans (Nat.lt_succ_self n)

/-- Numbers held against numbers given out. -/
structure Balanced (d : Ledger R) : Prop where
  settled : d.desk.engine.active.settled=true
  /-- Every number that is held was given to a request, and is held once for each answer. -/
  held : d.desk.engine.held≤↑d.desk.takeoffs+↑d.prompt+↑d.airborne
  /-- No number was given to two requests. -/
  nodup : (↑d.desk.takeoffs+↑d.prompt : Multiset ℕ).Nodup
  airborne : d.airborne.Nodup ∧ d.airborne⊆d.prompt
  arrived : ∀ id∈(↑d.desk.takeoffs+↑d.prompt : Multiset ℕ),id<d.desk.arrived
  prompt : ∀ id∈d.prompt,Answers id d.desk.engine ∨ Hung d.desk.engine

/-- Every request to loiter in the air has its two answers. -/
def Twice (d : Ledger R) : Prop :=
  ∀ id∈d.airborne,d.desk.engine.answers.filter (fun a => a.1==id)=loiterAnswers id

/-- How often a number is answered. -/
theorem count_answers (answers : List (ℕ×Except String String)) (id : ℕ) :
    (answers.map Prod.fst).count id=(answers.filter (fun a => a.1==id)).length := by
  rw [List.count,List.countP_map,List.countP_eq_length_filter]
  rfl

/-- Answers to other requests leave the two answers of a request to loiter in the air. -/
theorem twice_append {more answers : List (ℕ×Except String String)} {id : ℕ}
    (hcount : ((more++answers).map Prod.fst).count id≤2)
    (htwice : answers.filter (fun a => a.1==id)=loiterAnswers id) :
    (more++answers).filter (fun a => a.1==id)=loiterAnswers id := by
  have hlength : (loiterAnswers id).length=2 := rfl
  rw [count_answers,List.filter_append,List.length_append,htwice,hlength] at hcount
  have hnone : (more.filter (fun a => a.1==id)).length=0 := by omega
  rw [List.filter_append,List.eq_nil_of_length_eq_zero hnone,htwice,List.nil_append]

namespace Balanced

variable {d : Ledger R}

/-- An answer belongs to a request. -/
theorem requested (h : Balanced d) {id : ℕ} (hanswer : Answers id d.desk.engine) :
    id∈(↑d.desk.takeoffs+↑d.prompt : Multiset ℕ) := by
  have hheld : id∈(↑d.desk.takeoffs+↑d.prompt+↑d.airborne : Multiset ℕ) :=
    Multiset.mem_of_le ((answered_le_held _).trans h.held) (Multiset.mem_coe.mpr hanswer)
  rcases Multiset.mem_add.mp hheld with hrequest|hair
  · exact hrequest
  · exact Multiset.mem_add.mpr (Or.inr (h.airborne.2 hair))

/-- No request has more than one answer, or two if it is one to loiter in the air. -/
theorem count_answers_le (h : Balanced d) (id : ℕ) :
    (d.desk.engine.answers.map Prod.fst).count id≤1+d.airborne.count id := by
  have hle := Multiset.count_le_of_le id ((answered_le_held _).trans h.held)
  rw [Multiset.count_add,Multiset.coe_count,Multiset.coe_count] at hle
  have hone := Multiset.nodup_iff_count_le_one.mp h.nodup id
  omega

end Balanced

/-- Every event keeps the balance. -/
theorem balanced_step [Field R] (pf : Platform R) (d : Ledger R) (l : Label R) (h : Balanced d) :
    Balanced (d.step pf l) := by
  obtain ⟨hkeep,hanswer,hboth⟩ := step_answers pf h.settled d.desk.arrived l
  have hair : l.isAirborne d.desk.engine=true → l.isPrompt=true := by
    cases l <;> simp [Label.isAirborne,Label.isPrompt]
  have htakeoffs : ((d.step pf l).desk.takeoffs : Multiset ℕ)=
      given d.desk.arrived l.isTakeoff+↑d.desk.takeoffs := coe_noted _ _ _
  have hprompt : ((d.step pf l).prompt : Multiset ℕ)=
      given d.desk.arrived l.isPrompt+↑d.prompt := coe_noted _ _ _
  have hairborne : ((d.step pf l).airborne : Multiset ℕ)=
      given d.desk.arrived (l.isAirborne d.desk.engine)+↑d.airborne := coe_noted _ _ _
  have hrequests : (↑(d.step pf l).desk.takeoffs+↑(d.step pf l).prompt : Multiset ℕ)=
      given d.desk.arrived (l.isTakeoff || l.isPrompt)+(↑d.desk.takeoffs+↑d.prompt) := by
    rw [htakeoffs,hprompt,add_add_add_comm]
    congr 1
    cases l <;> simp [given,Label.isTakeoff,Label.isPrompt]
  have hnew : d.desk.arrived∉(↑d.desk.takeoffs+↑d.prompt : Multiset ℕ) :=
    fun hid => lt_irrefl _ (h.arrived _ hid)
  have hunheard : d.desk.arrived∉d.airborne :=
    fun hid => hnew (Multiset.mem_add.mpr (Or.inr (h.airborne.2 hid)))
  refine ⟨hkeep.settled,?_,?_,⟨?_,?_⟩,?_,?_⟩
  · calc
      (d.step pf l).desk.engine.held ≤ l.asks d.desk.arrived d.desk.engine+d.desk.engine.held :=
        hkeep.held
      _ ≤ l.asks d.desk.arrived d.desk.engine+(↑d.desk.takeoffs+↑d.prompt+↑d.airborne) :=
        add_le_add le_rfl h.held
      _ = _ := by
        rw [htakeoffs,hprompt,hairborne,Label.asks_eq]
        ac_rfl
  · rw [hrequests]
    exact nodup_given_add _ hnew h.nodup
  · rw [←Multiset.coe_nodup,hairborne]
    exact nodup_given_add _ hunheard (Multiset.coe_nodup.mpr h.airborne.1)
  · intro id hid
    rcases mem_noted hid with ⟨rfl,hnow⟩|hold
    · change d.desk.arrived∈noted _ _ _
      rw [hair hnow]
      exact List.mem_cons_self
    · have hkept := Multiset.mem_coe.mpr (h.airborne.2 hold)
      rw [←Multiset.mem_coe,hprompt]
      exact Multiset.mem_add.mpr (Or.inr hkept)
  · rw [hrequests]
    exact fun id hid => lt_of_mem_given_add h.arrived hid
  · intro id hid
    rcases mem_noted hid with ⟨rfl,hnow⟩|hold
    · exact hanswer hnow
    · exact (h.prompt id hold).imp hkeep.still hkeep.hung

/-- So do the answers to a request to loiter in the air. -/
theorem twice_step [Field R] (pf : Platform R) (d : Ledger R) (l : Label R) (h : Balanced d)
    (htwice : Twice d) : Twice (d.step pf l) := by
  obtain ⟨hkeep,_,hboth⟩ := step_answers pf h.settled d.desk.arrived l
  have hnext := balanced_step pf d l h
  intro id hid
  rcases mem_noted hid with ⟨rfl,hnow⟩|hold
  · have hanswers : (d.step pf l).desk.engine.answers=
        loiterAnswers d.desk.arrived++d.desk.engine.answers := hboth hnow
    have hnone : d.desk.engine.answers.filter (fun a => a.1==d.desk.arrived)=[] := by
      refine List.eq_nil_of_length_eq_zero ?_
      rw [←count_answers]
      exact List.count_eq_zero.mpr fun hanswer => lt_irrefl _ (h.arrived _ (h.requested hanswer))
    rw [hanswers,List.filter_append,hnone,List.append_nil]
    simp [loiterAnswers]
  · obtain ⟨more,hmore⟩ := hkeep.answers
    have hanswers : (d.step pf l).desk.engine.answers=more++d.desk.engine.answers := hmore.symm
    have hcount := hnext.count_answers_le id
    rw [List.count_eq_one_of_mem hnext.airborne.1 hid,hanswers] at hcount
    rw [hanswers]
    exact twice_append hcount (htwice id hold)

/-- In every run of events and ticks, with any aborted, superseded or failed flights: no
takeoff, mission, point command, landing or end of following is answered twice, a request
to loiter in the air has exactly its two answers, nothing else is answered, and every
request but a takeoff is answered when it is taken in, unless the program hangs on a
heading. -/
theorem answered_once [Field R] (pf : Platform R) (x : Sensors R) (labels : List (Label R)) :
    AnsweredOnce (runFrom (Ledger.step pf) { desk := desk x } labels) := by
  have hrun : Balanced (runFrom (Ledger.step pf) { desk := desk x } labels) ∧
      Twice (runFrom (Ledger.step pf) { desk := desk x } labels) := by
    refine run_invariant (P := fun d => Balanced d ∧ Twice d) (fun d l h =>
      ⟨balanced_step pf d l h.1,twice_step pf d l h.1 h.2⟩) labels ⟨?_,fun id hid => (nomatch hid)⟩
    exact ⟨rfl,le_rfl,Multiset.nodup_zero,⟨List.nodup_nil,fun _ hid => hid⟩,
      fun id hid => (nomatch hid),fun id hid => (nomatch hid)⟩
  obtain ⟨hbalanced,htwice⟩ := hrun
  refine ⟨fun id hid => ?_,htwice,fun id hid => ?_,hbalanced.prompt⟩
  · have hone := hbalanced.count_answers_le id
    rwa [List.count_eq_zero.mpr hid] at hone
  · exact Multiset.mem_add.mp (hbalanced.requested hid)

end Dankong.Flight

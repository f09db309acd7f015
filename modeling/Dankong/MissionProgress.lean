import Dankong.EngineQueue

/-!
# Progress of a mission

Whatever interrupts a mission, its progress reports count its points one by one
in order, the completion report follows the last of them, and the index of the
current point changes only by one and only on an arrival while a leg is flown.
-/

namespace Dankong.Flight

open Engine Runs

variable {R : Type*}

/-- What a mission reports. -/
inductive Report
  /-- `TaskProgressEvent`. -/
  | progress (cur total : ℕ)
  /-- `TaskDoneEvent`. -/
  | done
  deriving DecidableEq

/-- Reports since the latest mission was entered, oldest first; outputs are read
latest first. -/
def reports : List (Output R) → List Report
  | [] => []
  | .missionEntered _ _::_ => []
  | .progress cur total::log => reports log++[.progress cur total]
  | .taskDone::log => reports log++[.done]
  | _::log => reports log

/-- The latest mission entered. -/
def latestMission : List (Output R) → Option (SetWaypointEvent R)
  | [] => none
  | .missionEntered e _::_ => some e
  | _::log => latestMission log

/-- Reports of a mission of `total` points after `k` arrivals. -/
def countedReports (k total : ℕ) : List Report :=
  (List.range k).map (fun i => .progress (i+1) total)++if k=total then [.done] else []

/-- Outputs of a leg are no reports. -/
theorem reports_excuteOutputs (pf : Platform R) (w : WaypointState R) (log : List (Output R)) :
    reports (excuteOutputs pf w++log)=reports log ∧
    latestMission (excuteOutputs pf w++log)=latestMission log := by
  constructor <;> refine excuteOutputs_ignored _ (fun o log ho => ?_) pf w log
  all_goals cases o <;> first | rfl | cases ho

/-- One more arrival before the last point. -/
theorem countedReports_succ {k total : ℕ} (h : k+1 < total) :
    countedReports k total++[.progress (k+1) total]=countedReports (k+1) total := by
  dsimp only [countedReports]
  rw [if_neg (by omega),if_neg (by omega),List.range_succ,List.map_append]
  simp

/-- The arrival at the last point. -/
theorem countedReports_last {k total : ℕ} (h : k+1=total) :
    countedReports k total++[.progress (k+1) total]++[.done]=countedReports (k+1) total := by
  dsimp only [countedReports]
  rw [if_neg (by omega),if_pos h,List.range_succ,List.map_append]
  simp

/-- A mission that is not reported completely is not reported as done. -/
theorem done_not_mem_countedReports {k total : ℕ} (h : k≠total) :
    .done∉countedReports k total := by
  dsimp only [countedReports]
  rw [if_neg h,List.append_nil]
  intro hmem
  obtain ⟨i,_,hi⟩ := List.mem_map.mp hmem
  cases hi

/-- Before the last arrival, the reports are as many as the arrivals. -/
theorem length_countedReports {k total : ℕ} (h : k≠total) :
    (countedReports k total).length=k := by
  dsimp only [countedReports]
  rw [if_neg h,List.append_nil,List.length_map,List.length_range]

/-- The reports count the arrivals of the latest mission, which are those of the
active one if a mission is active. -/
structure Counted (s : Engine R) : Prop where
  /-- Reports of the latest mission, active or not. -/
  latest : ∀ e,latestMission s.log=some e → e.legs≠0 →
    ∃ k≤e.legs,reports s.log=countedReports k e.legs
  /-- The active mission is the latest one. -/
  active : ∀ w c,s.active=.waypoint w c → latestMission s.log=some w.event ∧
    w.wpList.length=w.event.legs ∧ w.wpIdx≤w.wpList.length ∧
    reports s.log=countedReports w.wpIdx w.wpList.length

/-- Outputs that are no reports keep the count while the mission stays. -/
theorem counted_of_eq {s t : Engine R} (h : Counted s) (hr : reports t.log=reports s.log)
    (hm : latestMission t.log=latestMission s.log)
    (ha : ∀ w c,t.active=.waypoint w c → ∃ c',s.active=.waypoint w c') : Counted t where
  latest e he hne := by
    rw [hr]
    exact h.latest e (hm.symm.trans he) hne
  active w c hw := by
    obtain ⟨c',hw'⟩ := ha w c hw
    rw [hr,hm]
    exact h.active w c' hw'

/-- Outputs that are no reports keep the count outside missions. -/
theorem counted_of_settled {s t : Engine R} (h : Counted s) (hr : reports t.log=reports s.log)
    (hm : latestMission t.log=latestMission s.log) (ha : t.active.isWaypoint=false) : Counted t :=
  counted_of_eq h hr hm fun w c hw => absurd hw (Active.ne_waypoint ha w c)

/-- A freshly entered mission has no reports. -/
theorem counted_entered {t : Engine R} {e : SetWaypointEvent R} {pos : Vec3 R}
    {log : List (Output R)} (hlog : t.log=.missionEntered e pos::log)
    (ha : ∀ w c,t.active=.waypoint w c → w.event=e ∧ w.wpList.length=e.legs ∧ w.wpIdx=0 ∧
      w.wpList≠[]) : Counted t where
  latest e' he' hne := by
    rw [hlog] at he' ⊢
    obtain rfl := Option.some.inj he'
    refine ⟨0,Nat.zero_le _,?_⟩
    dsimp only [countedReports]
    rw [if_neg (fun hzero => hne hzero.symm)]
    rfl
  active w c hw := by
    obtain ⟨rfl,hlen,hidx,hne⟩ := ha w c hw
    have hpos := List.length_pos_iff.mpr hne
    rw [hlog,hidx]
    refine ⟨rfl,hlen,Nat.zero_le _,?_⟩
    dsimp only [countedReports]
    rw [if_neg (by omega)]
    rfl

/-- One more arrival of the active mission. -/
theorem counted_progress {s t : Engine R} {w : WaypointState R} {c c' : WaypointChild R}
    (h : Counted s) (hw : s.active=.waypoint w c) (ht : t.active=.waypoint w.advance c')
    (hm : latestMission t.log=latestMission s.log) (hin : w.wpIdx < w.wpList.length)
    (hr : reports t.log=countedReports (w.wpIdx+1) w.wpList.length) : Counted t := by
  obtain ⟨hlatest,hlen,_,_⟩ := h.active w c hw
  refine ⟨fun e he hne => ?_,fun w' c'' hw' => ?_⟩
  · obtain rfl := Option.some.inj (hlatest.symm.trans (hm.symm.trans he))
    rw [←hlen]
    exact ⟨w.wpIdx+1,hin,hr⟩
  · rw [ht] at hw'
    cases hw'
    exact ⟨hm.trans hlatest,hlen,hin,hr⟩

/-- Every elementary change keeps the count. -/
theorem counted_rule (pf : Platform R) :
    StepRule pf (fun _ => True) (fun _ _ => True) Counted where
  again _ _ := trivial
  plan _ _ _ h := ⟨h.latest,h.active⟩
  answer _ _ _ h := ⟨h.latest,h.active⟩
  sense _ _ h := ⟨h.latest,h.active⟩
  quiet s o ho h := by
    cases o with
    | ran p => exact counted_of_eq h rfl rfl fun w c hw => ⟨c,hw⟩
    | posVelThrew => exact counted_of_eq h rfl rfl fun w c hw => ⟨c,hw⟩
    | posVelHung => exact counted_of_eq h rfl rfl fun w c hw => ⟨c,hw⟩
    | _ => cases ho
  settle _ _ ha h := counted_of_settled h rfl rfl ha
  ground _ h := counted_of_settled h rfl rfl rfl
  restart _ h := counted_of_settled h rfl rfl rfl
  takeoff _ _ _ _ h := counted_of_settled h rfl rfl rfl
  skip s m a _ ha _ := counted_entered rfl fun w c hw => absurd hw (Active.ne_waypoint ha w c)
  fly s m w _ hw _ := counted_entered rfl fun w' c hw' => by
    cases hw'
    obtain ⟨hevent,hlist,hidx,hne⟩ := missionEntry_fly hw
    exact ⟨hevent,by rw [hlist]; rfl,hidx,hne⟩
  interrupt s w c x hw _ h := counted_of_eq h rfl rfl fun w' c' hw' => by
    cases hw'
    exact ⟨c,hw⟩
  resume s w x hw _ h := counted_of_eq h rfl rfl fun w' c' hw' => by
    cases hw'
    exact ⟨_,hw⟩
  excute s w hw _ h := by
    obtain ⟨hr,hm⟩ := reports_excuteOutputs pf w s.log
    exact counted_of_eq h hr hm fun w' c' hw' => by
      cases hw'
      exact ⟨_,hw⟩
  lift s w hw hin h := by
    have hin' : w.wpIdx+1 < w.wpList.length := hin
    refine counted_progress h hw rfl rfl (by omega) ?_
    rw [←countedReports_succ hin',←(h.active w _ hw).2.2.2]
    rfl
  next s w hw hin h := by
    have hin' : w.wpIdx+1 < w.wpList.length := hin
    obtain ⟨hr,hm⟩ := reports_excuteOutputs pf w.advance
      (.progress (w.wpIdx+1) w.wpList.length::s.log)
    refine counted_progress h hw rfl hm (by omega) ?_
    rw [←countedReports_succ hin',←(h.active w _ hw).2.2.2]
    exact hr
  finish s w hw hin hout h := by
    have hlast : w.wpIdx+1=w.wpList.length := w.last_of_not_inRange hin hout
    refine counted_progress h hw rfl rfl hin ?_
    rw [←countedReports_last hlast,←(h.active w _ hw).2.2.2]
    rfl

variable [Field R] {pf : Platform R} {s : Engine R}

/-- Where stepping to a planned state can leave a mission active. -/
theorem request_waypoint {p : Planned R} {w' : WaypointState R} {c' : WaypointChild R}
    (h : (s.request pf p).active=.waypoint w' c') :
    p.target.isMission=true ∧ w'.wpIdx=0 ∨
      p.target.needsMission=true ∧ ∃ c,s.active=.waypoint w' c := by
  dsimp only [request] at h
  split at h
  · cases h
  · rcases enterTarget_active (s:=s) pf p with hnot|⟨m,w,hp,hw,ha⟩|⟨hneeds,w,c,x,hw,ha⟩
    · rw [h] at hnot
      cases hnot
    · rw [h] at ha
      cases ha
      exact Or.inl ⟨by rw [hp]; rfl,(missionEntry_fly hw).2.2.1⟩
    · rw [h] at ha
      cases ha
      exact Or.inr ⟨hneeds,c,hw⟩

/-- Where running the front of the queue can leave a mission active. -/
theorem advance_waypoint {w' : WaypointState R} {c' : WaypointChild R}
    (h : (s.advance pf).active=.waypoint w' c') :
    (s.fallback=none ∧ s.active=.waypoint w' c') ∨
    ∃ p rest,s.queue=p::rest ∧ (p.target.isMission=true ∧ w'.wpIdx=0 ∨
      p.target.needsMission=true ∧ ∃ c,s.active=.waypoint w' c) := by
  dsimp only [advance] at h
  split at h
  · rename_i p rest hq
    exact Or.inr ⟨p,rest,hq,request_waypoint (s:={ s with queue := rest }) h⟩
  · split at h
    · cases h
    · cases h
    · rename_i hfb
      exact Or.inl ⟨hfb,h⟩

omit [Field R] in
/-- An interruption keeps the mission. -/
theorem interrupt_waypoint {w w' : WaypointState R} {c c' : WaypointChild R} {x : Excursion R}
    (hw : s.active=.waypoint w c) (h : (s.interrupt x).active=.waypoint w' c') : w'=w := by
  dsimp only [interrupt] at h
  rw [hw] at h
  cases h
  rfl

omit [Field R] in
/-- The end of an interruption keeps the mission. -/
theorem resume_waypoint {w w' : WaypointState R} {c c' : WaypointChild R}
    (hw : s.active=.waypoint w c) (h : s.resume.active=.waypoint w' c') : w'=w := by
  dsimp only [resume] at h
  rw [hw] at h
  dsimp only at h
  rw [enterLifting_active] at h
  cases h
  rfl

/-- A tick of an interruption keeps the mission. -/
theorem excursionTick_waypoint {w w' : WaypointState R} {c c' : WaypointChild R}
    {x : Excursion R} {o : TickObs} (hw : s.active=.waypoint w c)
    (h : (s.excursionTick pf x o).active=.waypoint w' c') : w'=w := by
  have hsame : s.active=.waypoint w' c' → w'=w := by
    intro hw'
    rw [hw] at hw'
    cases hw'
    rfl
  rcases excursionTick_cases pf s x o with heq|⟨e,heq⟩|heq|heq <;> rw [heq] at h
  · exact hsame h
  · exact interrupt_waypoint hw h
  · exact resume_waypoint hw h
  · exact hsame h

/-- An arrival either leaves the mission or advances its index by one. -/
theorem arrive_waypoint {w w' : WaypointState R} {c c' : WaypointChild R} (hd : Disciplined s)
    (hw : s.active=.waypoint w c) (h : (s.arrive pf w).active=.waypoint w' c') :
    w'=w.advance := by
  obtain ⟨_,hbound,hfb⟩ := hd.mission w c hw
  unfold arrive at h
  dsimp only at h
  split at h
  · rcases advance_waypoint h with ⟨hnone,_⟩|⟨p,rest,hq,⟨hm,_⟩|⟨hneeds,_⟩⟩
    · rw [show s.fallback=none from hnone] at hfb
      cases hfb
    · rw [(front_of_hoverBound hbound hq).1] at hm
      cases hm
    · rw [(front_of_hoverBound hbound hq).2] at hneeds
      cases hneeds
  · rw [enterLifting_active] at h
    cases h
    rfl
  · rw [enterExcute_active] at h
    cases h
    rfl

/-- What one step does to the index of an active mission: nothing, one more on an
arrival while a leg is flown, or a new mission takes over from its beginning. -/
inductive IndexChange (s : Engine R) (w : WaypointState R) (c : WaypointChild R) :
    Label R → WaypointState R → Prop
  /-- The mission is the same. -/
  | same (l : Label R) : IndexChange s w c l w
  /-- An arrival while a leg is flown. -/
  | arrived (o : TickObs) (hc : c=.excute) (hodom : s.ctx.odomOk=true) (hreached : o.reached=true) :
      IndexChange s w c (.tick o) w.advance
  /-- A new mission. -/
  | replaced (id : ℕ) (e : SetWaypointEvent R) (w' : WaypointState R) (hfirst : w'.wpIdx=0) :
      IndexChange s w c (.setWaypoint id e) w'

/-- A point command keeps the mission or leaves it. -/
theorem onSetPosVel_waypoint {w w' : WaypointState R} {c c' : WaypointChild R}
    (hd : Disciplined s) (hw : s.active=.waypoint w c) {id : ℕ} {e : SetPosVelEvent R}
    (h : (s.onSetPosVel pf id e).active=.waypoint w' c') : w'=w := by
  obtain ⟨_,hbound,hfb⟩ := hd.mission w c hw
  dsimp only [onSetPosVel] at h
  split at h
  · obtain ⟨kept,hkept⟩ := moveTo_active (s.answer id (.ok "OK")) pf e
    rw [hkept] at h
    exact interrupt_waypoint (s:=s.answer id (.ok "OK")) hw h
  · rw [resolveStarted_active] at h
    rcases advance_waypoint h with ⟨hnone,_⟩|⟨p,rest,hq,⟨hm,_⟩|⟨_,c₀,hc₀⟩⟩
    · rw [show s.fallback=none from hnone] at hfb
      cases hfb
    · have hp : p∈s.queue++[(⟨.posVel .waypoint e,false⟩ : Planned R)] := by
        rw [show s.queue++[(⟨.posVel .waypoint e,false⟩ : Planned R)]=p::rest from hq]
        exact List.mem_cons_self
      rcases List.mem_append.mp hp with hp|hp
      · rw [isMission_of_isHoverBound (hbound p hp)] at hm
        cases hm
      · rw [List.mem_singleton.mp hp] at hm
        cases hm
    · rw [show s.active=.waypoint w' c₀ from hc₀] at hw
      cases hw
      rfl
  · rename_i heq _
    rw [hw] at heq
    cases heq
  · rename_i hnot _
    exact absurd hw (hnot w c)

omit [Field R] in
/-- A mission that stays active as it is keeps its index. -/
theorem IndexChange.keep {w w' : WaypointState R} {c c' : WaypointChild R}
    (hw : s.active=.waypoint w c) (hs : s.active=.waypoint w' c') (l : Label R) :
    IndexChange s w c l w' := by
  rw [hs] at hw
  cases hw
  exact .same l

/-- A tick moves the index on an arrival while a leg is flown. -/
theorem tick_index (hd : Disciplined s) {w w' : WaypointState R} {c c' : WaypointChild R}
    (hw : s.active=.waypoint w c) (o : TickObs) (h : (s.tick pf o).active=.waypoint w' c') :
    IndexChange s w c (.tick o) w' := by
  dsimp only [tick] at h
  rw [hw] at h
  cases c with
  | lifting =>
    dsimp only at h
    split at h
    · rw [enterExcute_active] at h
      cases h
      exact .same _
    · exact .keep hw h _
  | excute =>
    dsimp only at h
    split at h
    · rename_i hgo
      rw [arrive_waypoint hd hw h]
      exact .arrived o rfl hgo.1 hgo.2
    · exact .keep hw h _
  | excursion x =>
    rw [excursionTick_waypoint hw h]
    exact .same _

/-- A mission command keeps the mission or begins a new one. -/
theorem onSetWaypoint_index {w w' : WaypointState R} {c c' : WaypointChild R}
    (hw : s.active=.waypoint w c) {id : ℕ} {e : SetWaypointEvent R}
    (h : (s.onSetWaypoint pf id e).active=.waypoint w' c') :
    IndexChange s w c (.setWaypoint id e) w' := by
  dsimp only [onSetWaypoint] at h
  split at h
  · exact .keep hw h _
  · rw [answer_active] at h
    dsimp only [startMission] at h
    split at h
    · cases h
    · rcases advance_waypoint h with ⟨hnone,_⟩|⟨p,rest,hq,⟨_,hfirst⟩|⟨hneeds,_⟩⟩
      · cases hnone
      · exact .replaced id e w' hfirst
      · have hp : p∈p::rest := List.mem_cons_self
        rw [←hq] at hp
        rw [needsMission_of_mem_missionPlan hp] at hneeds
        cases hneeds

/-- The index of an active mission changes only on an arrival while a leg is
flown, by one. -/
theorem index_step (hd : Disciplined s) {w w' : WaypointState R} {c c' : WaypointChild R}
    (hw : s.active=.waypoint w c) (l : Label R)
    (h : (step pf s l).active=.waypoint w' c') : IndexChange s w c l w' := by
  have hsame : w'=w → IndexChange s w c l w' := by
    rintro rfl
    exact .same l
  have hkeep : s.active=.waypoint w' c' → IndexChange s w c l w' := fun hs => .keep hw hs l
  cases l with
  | sense x => exact hkeep h
  | listenerTick =>
    dsimp only [step] at h
    rcases listenerTick_cases s with heq|heq <;> rw [heq] at h
    · exact hkeep h
    · cases h
  | tick o => exact tick_index hd hw o h
  | takeoffEvent id alt =>
    dsimp only [step,onTakeoff] at h
    split at h
    · exact hkeep h
    · rcases advance_waypoint h with ⟨hnone,_⟩|⟨p,rest,hq,⟨hm,_⟩|⟨hneeds,_⟩⟩
      · cases hnone
      · cases hq
        cases hm
      · cases hq
        cases hneeds
  | setWaypoint id e => exact onSetWaypoint_index hw h
  | setPosVel id e => exact hsame (onSetPosVel_waypoint hd hw h)
  | landEvent id doPland =>
    dsimp only [step,onLand] at h
    rw [hw] at h
    cases h
  | restart => cases h
  | armEvent armed =>
    dsimp only [step] at h
    rcases onArm_cases pf s armed with heq|⟨harm,_⟩
    · rw [heq] at h
      exact hkeep h
    · rw [hw] at harm
      cases harm
  | statusText text =>
    dsimp only [step] at h
    rcases onStatusText_cases pf s text with heq|⟨harm,_⟩
    · rw [heq] at h
      exact hkeep h
    · rw [hw] at harm
      cases harm
  | detect cooling =>
    dsimp only [step] at h
    rcases onDetect_cases pf s cooling with heq|⟨_,parent,_,heq⟩ <;> rw [heq] at h
    · exact hkeep h
    · rcases request_waypoint h with ⟨hm,_⟩|⟨_,c₀,hc₀⟩
      · cases hm
      · rw [hc₀] at hw
        cases hw
        exact .same _
  | stopFollow id =>
    dsimp only [step,onStopFollow] at h
    split at h
    · exact hsame (resume_waypoint (s:=s.answer id (.ok "OK")) hw h)
    · exact hkeep h
  | loiter id =>
    dsimp only [step,onLoiter] at h
    split at h
    · cases h
    · exact hkeep h

/-- The progress of missions in one state: the index of an active mission is in
range and equals its number of progress reports, the latest mission has been
reported completely once it is done, and no step changes the index otherwise
than by an arrival. -/
structure ProgressSound (pf : Platform R) (s : Engine R) : Prop where
  /-- The current point exists, whichever child of the mission is active. -/
  inRange : ∀ w c,s.active=.waypoint w c → w.wpIdx < w.wpList.length
  /-- The active mission is the latest and is reported up to its index. -/
  active : ∀ w c,s.active=.waypoint w c → latestMission s.log=some w.event ∧
    w.wpList.length=w.event.legs ∧ reports s.log=countedReports w.wpIdx w.wpList.length
  /-- The latest mission with points is reported in order, without repetition,
  and as done exactly after its last point. -/
  latest : ∀ e,latestMission s.log=some e → e.legs≠0 →
    ∃ k≤e.legs,reports s.log=countedReports k e.legs
  /-- The index changes only on arrivals while a leg is flown. -/
  index : ∀ w c l w' c',s.active=.waypoint w c → (step pf s l).active=.waypoint w' c' →
    IndexChange s w c l w'

/-- In every reachable state, the progress of missions is sound. -/
theorem progress_sound (pf : Platform R) (x : Sensors R) (labels : List (Label R)) :
    ProgressSound pf (runFrom (step pf) (initial x) labels) := by
  have hd := run_disciplined pf x labels
  have hc : Counted (runFrom (step pf) (initial x) labels) :=
    (counted_rule pf).run_unguarded x ⟨fun _ he => (nomatch he),fun _ _ hw => (nomatch hw)⟩ labels
  refine ⟨fun w c hw => (hd.mission w c hw).1,fun w c hw => ?_,hc.latest,
    fun w c l w' c' hw hw' => index_step hd hw l hw'⟩
  obtain ⟨hlatest,hlen,_,hr⟩ := hc.active w c hw
  exact ⟨hlatest,hlen,hr⟩

end Dankong.Flight

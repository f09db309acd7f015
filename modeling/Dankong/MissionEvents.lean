import Dankong.MissionAccess
import Dankong.MissionProgress

/-!
# Node events of a whole mission

The events of a leg are dispatched whenever the leg is entered, also when it is
entered again after an interruption. A finished mission has dispatched the events
of every entry once and in order if no leg with events was interrupted.
-/

namespace Dankong.Flight

open Engine Runs

variable {R : Type*}

/-- Commands dispatched since the latest mission was entered, oldest first, each
with the index of its entry. -/
def nodeTrace : List (Output R) → List (ℕ×NodeCommand R)
  | [] => []
  | .missionEntered _ _::_ => []
  | .node i command::log => nodeTrace log++[(i,command)]
  | _::log => nodeTrace log

/-- The commands that the entry of a leg stands for. -/
def legCommands (pf : Platform R) (e : SetWaypointEvent R) (i : ℕ) : List (ℕ×NodeCommand R) :=
  match e.nodeEventList with
  | none => []
  | some entries =>
    match entries[i]? with
    | none => []
    | some entry => (entryCommands pf.stof entry).map (Prod.mk i)

/-- The commands of the first `k` entries, in order. -/
def firstCommands (pf : Platform R) (e : SetWaypointEvent R) (k : ℕ) :
    List (ℕ×NodeCommand R) := (List.range k).flatMap (legCommands pf e)

/-- Number of legs begun, with a child of the mission active. -/
def WaypointState.begun (w : WaypointState R) : WaypointChild R → ℕ
  | .excute => min (w.wpIdx+1) w.wpList.length
  | _ => w.wpIdx

/-- While a leg in range is flown, it has begun. -/
theorem begun_excute {w : WaypointState R} (hin : w.InRange) : w.begun .excute=w.wpIdx+1 :=
  Nat.min_eq_left hin

/-- One more entry. -/
theorem firstCommands_succ (pf : Platform R) (e : SetWaypointEvent R) (k : ℕ) :
    firstCommands pf e (k+1)=firstCommands pf e k++legCommands pf e k := by
  dsimp only [firstCommands]
  rw [List.range_succ,List.flatMap_append,List.flatMap_singleton]

/-- Entering a leg dispatches what its entry runs. -/
theorem nodeTrace_excuteOutputs (pf : Platform R) (w : WaypointState R) (log : List (Output R)) :
    nodeTrace (excuteOutputs pf w++log)=
      nodeTrace log++(w.runNode pf).1.map (Prod.mk w.wpIdx) := by
  have hnodes : ∀ (commands : List (NodeCommand R)) (log : List (Output R)),
      nodeTrace ((commands.map (.node w.wpIdx)).reverse++log)=
        nodeTrace log++commands.map (Prod.mk w.wpIdx) := by
    intro commands
    induction commands with
    | nil =>
      intro log
      exact (List.append_nil _).symm
    | cons c commands ih =>
      intro log
      rw [List.map_cons,List.reverse_cons,List.append_assoc,ih]
      exact List.append_assoc ..
  dsimp only [excuteOutputs]
  rw [List.append_assoc,List.append_assoc]
  split
  · exact hnodes _ _
  · exact hnodes _ _

/-- A leg with a well-formed entry runs the commands of that entry. -/
theorem runNode_commands {pf : Platform R} {w : WaypointState R}
    (h : NodeEventsOk w.event.nodeEventList w.wpList.length) (hin : w.InRange) :
    (w.runNode pf).1.map (Prod.mk w.wpIdx)=legCommands pf w.event w.wpIdx := by
  unfold WaypointState.runNode legCommands
  cases hlist : w.event.nodeEventList with
  | none => rfl
  | some entries =>
    obtain ⟨entry,hentry,hok⟩ := h entries hlist w.wpIdx hin
    dsimp only
    rw [hentry]
    dsimp only
    rw [runEvents_commands (runEvents_completes hok)]
    rfl

/-- The dispatched commands are those of the legs begun, and of all legs once the
mission is done, for missions with well-formed entries for all legs. -/
structure Dispatched (pf : Platform R) (s : Engine R) : Prop where
  /-- The reports count the arrivals. -/
  counted : Counted s
  /-- Commands of the active mission. -/
  active : ∀ w c,s.active=.waypoint w c → NodeEventsOk w.event.nodeEventList w.event.legs →
    nodeTrace s.log=firstCommands pf w.event (w.begun c)
  /-- Commands of the latest mission once it is done. -/
  finished : ∀ e,latestMission s.log=some e → NodeEventsOk e.nodeEventList e.legs →
    .done∈reports s.log → nodeTrace s.log=firstCommands pf e e.legs

variable {pf : Platform R}

/-- While the current point of the active mission is in range, nothing is reported
as done. -/
theorem not_done_of_inRange {s : Engine R} (h : Counted s) {w : WaypointState R}
    {c : WaypointChild R} (hw : s.active=.waypoint w c) (hin : w.InRange) :
    .done∉reports s.log := by
  rw [(h.active w c hw).2.2.2]
  exact done_not_mem_countedReports (Nat.ne_of_lt hin)

/-- Changes that touch no traced output keep the commands, if the number of legs
begun stays or grows by legs without commands. -/
theorem dispatched_of_eq {s t : Engine R} (h : Dispatched pf s) (hc : Counted t)
    (hr : reports t.log=reports s.log) (hm : latestMission t.log=latestMission s.log)
    (hn : nodeTrace t.log=nodeTrace s.log)
    (ha : ∀ w c,t.active=.waypoint w c → ∃ c',s.active=.waypoint w c' ∧
      firstCommands pf w.event (w.begun c')=firstCommands pf w.event (w.begun c)) :
    Dispatched pf t where
  counted := hc
  active w c hw hok := by
    obtain ⟨c',hw',heq⟩ := ha w c hw
    rw [hn,←heq]
    exact h.active w c' hw' hok
  finished e he hok hdone := by
    rw [hn]
    exact h.finished e (hm.symm.trans he) hok (by rwa [←hr])

/-- A freshly entered mission has dispatched nothing. -/
theorem dispatched_entered {t : Engine R} (hc : Counted t) {e : SetWaypointEvent R}
    {pos : Vec3 R} {log : List (Output R)} (hlog : t.log=.missionEntered e pos::log)
    (ha : ∀ w c,t.active=.waypoint w c → w.wpIdx=0 ∧ c=.lifting) : Dispatched pf t where
  counted := hc
  active w c hw _ := by
    obtain ⟨hidx,rfl⟩ := ha w c hw
    rw [hlog]
    dsimp only [WaypointState.begun]
    rw [hidx]
    rfl
  finished e' _ _ hdone := by
    rw [hlog] at hdone
    cases hdone

/-- Entering a leg of the active mission adds the commands of that leg. -/
theorem dispatched_excute {t : Engine R} {w : WaypointState R} (hc : Counted t)
    (ht : t.active=.waypoint w .excute) (hin : w.InRange) {log : List (Output R)}
    (hlog : t.log=excuteOutputs pf w++log) (hlen : w.wpList.length=w.event.legs)
    (hbefore : NodeEventsOk w.event.nodeEventList w.event.legs →
      nodeTrace log=firstCommands pf w.event w.wpIdx) : Dispatched pf t where
  counted := hc
  active w' c hw hok := by
    rw [ht] at hw
    cases hw
    rw [hlog,nodeTrace_excuteOutputs,hbefore hok,begun_excute hin,firstCommands_succ,
      runNode_commands (by rw [hlen]; exact hok) hin]
  finished e _ _ hdone := absurd hdone (not_done_of_inRange hc ht hin)

/-- While a leg before the last is flown, its commands have been dispatched. -/
theorem dispatched_before_arrival (h : Dispatched pf s) {w : WaypointState R}
    (hw : s.active=.waypoint w .excute) (hin : w.advance.InRange)
    (hok : NodeEventsOk w.event.nodeEventList w.event.legs) :
    nodeTrace s.log=firstCommands pf w.event (w.wpIdx+1) := by
  have hlt : w.wpIdx+1 < w.wpList.length := hin
  have hbefore := h.active w _ hw hok
  rwa [begun_excute (Nat.lt_of_succ_lt hlt)] at hbefore

/-- Every elementary change keeps the commands in step, if only legs without
commands are interrupted. -/
theorem dispatched_rule (pf : Platform R) :
    StepRule pf (fun _ => True)
      (fun w c => c=.excute → legCommands pf w.event w.wpIdx=[]) (Dispatched pf) where
  again _ _ hc := by cases hc
  plan s q fb h := dispatched_of_eq h ((counted_rule pf).plan s q fb h.counted) rfl rfl rfl
    fun w c hw => ⟨c,hw,rfl⟩
  answer s id result h := dispatched_of_eq h ((counted_rule pf).answer s id result h.counted)
    rfl rfl rfl fun w c hw => ⟨c,hw,rfl⟩
  sense s x h := dispatched_of_eq h ((counted_rule pf).sense s x h.counted) rfl rfl rfl
    fun w c hw => ⟨c,hw,rfl⟩
  quiet s o ho h := by
    have hc := (counted_rule pf).quiet s o ho h.counted
    cases o with
    | ran p => exact dispatched_of_eq h hc rfl rfl rfl fun w c hw => ⟨c,hw,rfl⟩
    | posVelThrew => exact dispatched_of_eq h hc rfl rfl rfl fun w c hw => ⟨c,hw,rfl⟩
    | posVelHung => exact dispatched_of_eq h hc rfl rfl rfl fun w c hw => ⟨c,hw,rfl⟩
    | _ => cases ho
  settle s a ha h := dispatched_of_eq h ((counted_rule pf).settle s a ha h.counted) rfl rfl rfl
    fun w c hw => absurd hw (Active.ne_waypoint ha w c)
  ground s h := dispatched_of_eq h ((counted_rule pf).ground s h.counted) rfl rfl rfl
    fun w c hw => (nomatch hw)
  restart s h := dispatched_of_eq h ((counted_rule pf).restart s h.counted) rfl rfl rfl
    fun w c hw => (nomatch hw)
  takeoff s event alt point h := dispatched_of_eq h
    ((counted_rule pf).takeoff s event alt point h.counted) rfl rfl rfl fun w c hw => (nomatch hw)
  skip s m a hm ha h := dispatched_entered ((counted_rule pf).skip s m a hm ha h.counted) rfl
    fun w c hw => absurd hw (Active.ne_waypoint ha w c)
  fly s m w hm hw h := dispatched_entered ((counted_rule pf).fly s m w hm hw h.counted) rfl
    fun w' c hw' => by
      cases hw'
      exact ⟨(missionEntry_fly hw).2.2.1,rfl⟩
  interrupt s w c x hw hok h := by
    refine dispatched_of_eq h ((counted_rule pf).interrupt s w c x hw trivial h.counted)
      rfl rfl rfl fun w' c' hw' => ?_
    cases hw'
    refine ⟨c,hw,?_⟩
    cases c with
    | lifting => rfl
    | excursion y => rfl
    | excute =>
      dsimp only [WaypointState.begun]
      rcases Nat.lt_or_ge w.wpIdx w.wpList.length with hlt|hge
      · rw [Nat.min_eq_left hlt,firstCommands_succ,hok rfl,List.append_nil]
      · rw [Nat.min_eq_right (by omega),
          Nat.le_antisymm (h.counted.active w _ hw).2.2.1 hge]
  resume s w x hw hin h := by
    refine dispatched_of_eq h ((counted_rule pf).resume s w x hw hin h.counted) rfl rfl rfl
      fun w' c' hw' => ?_
    cases hw'
    exact ⟨_,hw,rfl⟩
  excute s w hw hin h :=
    dispatched_excute ((counted_rule pf).excute s w hw hin h.counted) rfl hin rfl
      (h.counted.active w _ hw).2.1 (h.active w _ hw)
  lift s w hw hin h := by
    have hc := (counted_rule pf).lift s w hw hin h.counted
    refine ⟨hc,fun w' c hw' hok => ?_,fun e _ _ hdone =>
      absurd hdone (not_done_of_inRange hc rfl hin)⟩
    cases hw'
    exact dispatched_before_arrival h hw hin hok
  next s w hw hin h :=
    dispatched_excute ((counted_rule pf).next s w hw hin h.counted) rfl hin rfl
      (h.counted.active w _ hw).2.1 fun hok => dispatched_before_arrival h hw hin hok
  finish s w hw hin hout h := by
    have hc := (counted_rule pf).finish s w hw hin hout h.counted
    have hlast : w.wpIdx+1=w.wpList.length := w.last_of_not_inRange hin hout
    obtain ⟨hlatest,hlen,_,_⟩ := h.counted.active w _ hw
    have hall : NodeEventsOk w.event.nodeEventList w.event.legs →
        nodeTrace s.log=firstCommands pf w.event w.wpList.length := by
      intro hok
      have hbefore := h.active w _ hw hok
      rw [show w.begun .excute=w.wpList.length by
        rw [←hlast]; exact Nat.min_eq_left (by omega)] at hbefore
      exact hbefore
    refine ⟨hc,fun w' c hw' hok => ?_,fun e he hok _ => ?_⟩
    · cases hw'
      rw [show w.advance.begun .excute=w.wpList.length from Nat.min_eq_right (by
        rw [w.advance_wpIdx,w.advance_wpList]; omega)]
      exact hall hok
    · obtain rfl := Option.some.inj (hlatest.symm.trans he)
      rw [←hlen]
      exact hall hok

/-- Guard: an interruption does not come while a leg with commands is flown. -/
def Uninterrupted (pf : Platform R) (s : Engine R) (l : Label R) : Prop :=
  l.interrupts=true → ∀ w,s.active=.waypoint w .excute → legCommands pf w.event w.wpIdx=[]

variable [Field R]

/-- In every run in which no leg with commands is interrupted, a mission with a
well-formed entry for every leg has, once it is done, dispatched the events of
every entry exactly once and in order. -/
theorem events_dispatched_once (pf : Platform R) (x : Sensors R) (labels : List (Label R))
    (hg : Guarded (step pf) (Uninterrupted pf) (initial x) labels) (e : SetWaypointEvent R)
    (he : latestMission (runFrom (step pf) (initial x) labels).log=some e)
    (hok : NodeEventsOk e.nodeEventList e.legs)
    (hdone : .done∈reports (runFrom (step pf) (initial x) labels).log) :
    nodeTrace (runFrom (step pf) (initial x) labels).log=firstCommands pf e e.legs := by
  have h : Dispatched pf (runFrom (step pf) (initial x) labels) := by
    refine (dispatched_rule pf).run x ?_ labels (guarded_mono ?_ labels hg)
    · exact ⟨⟨fun _ he => (nomatch he),fun _ _ hw => (nomatch hw)⟩,
        fun _ _ hw => (nomatch hw),fun _ he => (nomatch he)⟩
    · intro s l hl
      refine ⟨?_,fun hint w c hw hc => ?_⟩
      · cases l <;> simp [Submits]
      · rw [hc] at hw
        exact hl hint w hw
  exact h.finished e he hok hdone

omit [Field R] in
/-- A string is a string, if present. -/
theorem stringIfPresent_of_find {fields : List (String×Json)} {key text : String}
    (h : Json.find? fields key=some (.str text)) : Json.StringIfPresent fields key := by
  intro v hv
  rw [h] at hv
  exact ⟨text,(Option.some.inj hv).symm⟩

/-- An event that starts a recording. -/
def recordEvent : Json :=
  .obj [("eventType",.str "video"),("eventStatus",.str "on"),("eventParam",.str "leg")]

/-- A mission of one point that starts a recording. -/
def recordRequest : SetWaypointEvent ℚ where
  waypoint := [⟨5,0,10⟩]
  nodeEventList := some [.arr [recordEvent]]
  isLocal := true

/-- The mission as accepted by the hovering vehicle. -/
def recordMission : SetWaypointEvent ℚ :=
  { recordRequest with waypoint := [⟨5,0,10+(0-0)⟩] }

/-- Hovering, the request, and the leg without interruption. -/
def recordRun : List (Label ℚ) :=
  [.tick {},.setWaypoint 0 recordRequest,.tick { stalled := true },.tick { reached := true }]

/-- The same with a point command during the leg, which times out. -/
def interruptedRecordRun : List (Label ℚ) :=
  [.tick {},.setWaypoint 0 recordRequest,.tick { stalled := true },.setPosVel 1 stayHere,
    .tick { timedOut := true },.tick { stalled := true },.tick { reached := true }]

/-- The entry that starts a recording is well formed. -/
theorem recordMission_ok : NodeEventsOk recordMission.nodeEventList recordMission.legs := by
  intro entries hentries i hi
  obtain rfl := Option.some.inj hentries
  have hi' : i < 1 := hi
  obtain rfl : i=0 := by omega
  refine ⟨_,rfl,fun event hevent => ?_⟩
  obtain rfl := List.mem_singleton.mp hevent
  exact ⟨_,rfl,stringIfPresent_of_find rfl,stringIfPresent_of_find rfl,
    fun _ _ _ => stringIfPresent_of_find rfl⟩

/-- Without interruption the recording is started once. -/
theorem recordRun_dispatches :
    nodeTrace (runFrom (step calmPlatform) (initial hovering) recordRun).log=
      firstCommands calmPlatform recordMission recordMission.legs :=
  events_dispatched_once calmPlatform hovering recordRun
    ⟨fun h => (nomatch h),fun h => (nomatch h),fun h => (nomatch h),fun h => (nomatch h),trivial⟩
    recordMission rfl recordMission_ok (by decide +kernel)

/-- With the interruption the recording is started twice, so the events of an
entry need not be dispatched exactly once. -/
theorem interruptedRecordRun_repeats :
    ¬∀ (pf : Platform ℚ) (x : Sensors ℚ) (labels : List (Label ℚ)) (e : SetWaypointEvent ℚ),
      latestMission (runFrom (step pf) (initial x) labels).log=some e →
      NodeEventsOk e.nodeEventList e.legs →
      .done∈reports (runFrom (step pf) (initial x) labels).log →
      nodeTrace (runFrom (step pf) (initial x) labels).log=firstCommands pf e e.legs := by
  intro h
  have heq := congrArg List.length (h calmPlatform hovering interruptedRecordRun recordMission rfl
    recordMission_ok (by decide +kernel))
  have htwice : (nodeTrace (runFrom (step calmPlatform) (initial hovering)
      interruptedRecordRun).log).length=2 := rfl
  have honce : (firstCommands calmPlatform recordMission recordMission.legs).length=1 := rfl
  rw [htwice,honce] at heq
  cases heq

end Dankong.Flight

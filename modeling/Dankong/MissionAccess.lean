import Dankong.EngineQueue

/-!
# Lookups of an accepted mission

The node event list keeps its submitted length while the first point is dropped
and a return point may be appended, and its JSON is read only when a point is
flown to. A mission never throws if its list has a well-formed entry for every
leg, and a mission in flight without that throws once it gets there.
-/

namespace Dankong.Flight

open Engine Runs

variable {R : Type*}

/-- The node events suffice for a number of legs: one well-formed entry each. -/
def NodeEventsOk (nodeEventList : Option (List Json)) (legs : ℕ) : Prop :=
  ∀ entries,nodeEventList=some entries →
    ∀ i < legs,∃ entry,entries[i]?=some entry ∧ EntryOk entry

/-- Number of legs that a submitted request leads to. -/
def submittedLegs (e : SetWaypointEvent R) : ℕ :=
  (if 2≤e.waypoint.length then e.waypoint.length-1 else e.waypoint.length)+
    if e.finishAction=.returnHome then 1 else 0

/-- Guard: a mission request is only accepted with node events for all its legs. -/
def EventsFit [Field R] (pf : Platform R) (s : Engine R) : Label R → Prop
  | .setWaypoint _ e =>
    (∃ accepted,acceptWaypoint pf s.ctx s.active.isInit s.active.isGround e=.ok accepted) →
      NodeEventsOk e.nodeEventList (submittedLegs e)
  | _ => True

/-- No exception so far, and the mission in flight has node events for all legs. -/
structure AccessSafe (s : Engine R) : Prop where
  /-- No access of a mission has thrown. -/
  quiet : .missionThrew∉s.log
  /-- The active mission has node events for its points. -/
  fits : ∀ w c,s.active=.waypoint w c → NodeEventsOk w.event.nodeEventList w.wpList.length

/-- Running the node events of a leg throws exactly if the list has no
well-formed entry for it. -/
theorem runNode_throws_iff (pf : Platform R) (w : WaypointState R) :
    (w.runNode pf).2=true ↔ ∃ entries,w.event.nodeEventList=some entries ∧
      ¬∃ entry,entries[w.wpIdx]?=some entry ∧ EntryOk entry := by
  dsimp only [WaypointState.runNode]
  cases w.event.nodeEventList with
  | none => simp
  | some entries =>
    dsimp only
    cases hentry : entries[w.wpIdx]? with
    | none => simp [hentry]
    | some entry =>
      dsimp only
      rw [runEvents_throws_iff]
      constructor
      · rintro ⟨event,hevent,hbad⟩
        refine ⟨entries,rfl,?_⟩
        rintro ⟨entry',hentry',hok⟩
        rw [hentry,Option.some.injEq] at hentry'
        exact hbad (hok event (hentry'▸hevent))
      · rintro ⟨entries',hentries,hbad⟩
        obtain rfl := Option.some.inj hentries
        by_contra hnone
        refine hbad ⟨entry,hentry,fun event hevent => ?_⟩
        by_contra hevent'
        exact hnone ⟨event,hevent,hevent'⟩

/-- With events for all legs, a leg in range throws nothing. -/
theorem runNode_quiet {pf : Platform R} {w : WaypointState R}
    (h : NodeEventsOk w.event.nodeEventList w.wpList.length) (hin : w.InRange) :
    (w.runNode pf).2=false := by
  rw [←Bool.not_eq_true,runNode_throws_iff]
  rintro ⟨entries,hentries,hbad⟩
  exact hbad (h entries hentries w.wpIdx hin)

/-- The outputs of entering a leg contain an exception exactly if its node
events throw. -/
theorem missionThrew_mem_excuteOutputs (pf : Platform R) (w : WaypointState R) :
    .missionThrew∈excuteOutputs pf w ↔ (w.runNode pf).2=true := by
  dsimp only [excuteOutputs]
  split
  · rename_i h
    simp [h]
  · rename_i h
    simp [h]

/-- Every elementary change keeps accesses safe. -/
theorem accessSafe_rule (pf : Platform R) :
    StepRule pf (fun m => NodeEventsOk m.event.nodeEventList m.event.legs) (fun _ _ => True)
      AccessSafe where
  again _ _ := trivial
  plan _ _ _ h := ⟨h.quiet,h.fits⟩
  answer _ _ _ h := ⟨h.quiet,h.fits⟩
  sense _ _ h := ⟨h.quiet,h.fits⟩
  quiet s o ho h := by
    refine ⟨fun hmem => ?_,h.fits⟩
    rcases List.mem_cons.mp hmem with rfl|hmem
    · cases ho
    · exact h.quiet hmem
  settle s a ha h := ⟨h.quiet,fun w c hw => absurd hw (Active.ne_waypoint ha w c)⟩
  ground s h := ⟨by simpa using h.quiet,fun w c hw => (nomatch hw)⟩
  restart s h := ⟨by simpa using h.quiet,fun w c hw => (nomatch hw)⟩
  takeoff s event alt point h := ⟨by simpa using h.quiet,fun w c hw => (nomatch hw)⟩
  skip s m a _ ha h :=
    ⟨by simpa using h.quiet,fun w c hw => absurd hw (Active.ne_waypoint ha w c)⟩
  fly s m w hm hw h := by
    refine ⟨by simpa using h.quiet,fun w' c hw' => ?_⟩
    cases hw'
    obtain ⟨hevent,hlist,_⟩ := missionEntry_fly hw
    rw [hevent,hlist]
    exact hm
  interrupt s w c x hw _ h := ⟨h.quiet,fun w' c' hw' => by cases hw'; exact h.fits w c hw⟩
  resume s w x hw _ h := ⟨h.quiet,fun w' c' hw' => by cases hw'; exact h.fits w _ hw⟩
  excute s w hw hin h := by
    refine ⟨fun hmem => ?_,fun w' c' hw' => by cases hw'; exact h.fits w _ hw⟩
    rcases List.mem_append.mp hmem with hnew|hold
    · rw [missionThrew_mem_excuteOutputs,runNode_quiet (h.fits w _ hw) hin] at hnew
      cases hnew
    · exact h.quiet hold
  lift s w hw _ h :=
    ⟨by simpa using h.quiet,fun w' c' hw' => by cases hw'; exact h.fits w _ hw⟩
  next s w hw hin h := by
    have hfits : NodeEventsOk w.advance.event.nodeEventList w.advance.wpList.length :=
      h.fits w _ hw
    refine ⟨fun hmem => ?_,fun w' c' hw' => by cases hw'; exact hfits⟩
    rcases List.mem_append.mp hmem with hnew|hold
    · rw [missionThrew_mem_excuteOutputs,runNode_quiet hfits hin] at hnew
      cases hnew
    · rcases List.mem_cons.mp hold with heq|hold
      · cases heq
      · exact h.quiet hold
  finish s w hw _ _ h :=
    ⟨by simpa using h.quiet,fun w' c' hw' => by cases hw'; exact h.fits w _ hw⟩

section

variable [Field R]

/-- The legs of an accepted mission, counted on the request as submitted. -/
theorem legs_of_accepted {pf : Platform R} {ctx : RobotContext R} {isInit isGround : Bool}
    {e accepted : SetWaypointEvent R}
    (h : acceptWaypoint pf ctx isInit isGround e=.ok accepted) :
    accepted.legs=submittedLegs e := by
  rw [acceptWaypoint_legs h]
  unfold submittedLegs flownPoints
  split <;> simp

/-- Ticks alone lead to an exception of the mission. -/
def ThrowsOnTicks (pf : Platform R) (s : Engine R) : Prop :=
  ∃ ticks : List TickObs,.missionThrew∈(runFrom (step pf) s (ticks.map .tick)).log

/-- An exception one tick later is an exception on ticks. -/
theorem throwsOnTicks_of_tick {pf : Platform R} {s : Engine R} (o : TickObs)
    (h : ThrowsOnTicks pf (step pf s (.tick o))) : ThrowsOnTicks pf s := by
  obtain ⟨ticks,hticks⟩ := h
  exact ⟨o::ticks,hticks⟩

/-- A stalled adjustment leads to the leg. -/
theorem throwsOnTicks_of_lifting {pf : Platform R} {s : Engine R} {w : WaypointState R}
    (hw : s.active=.waypoint w .lifting) (h : ThrowsOnTicks pf (s.enterExcute pf w)) :
    ThrowsOnTicks pf s := by
  refine throwsOnTicks_of_tick { stalled := true } ?_
  simpa only [step,tick,hw,or_true,if_true] using h

/-- From a leg at most the bad one, ticks lead to the exception there. -/
theorem throwsOnTicks_enterExcute (pf : Platform R) {entries : List Json} {j : ℕ}
    (hbad : ¬∃ entry,entries[j]?=some entry ∧ EntryOk entry) (n : ℕ) :
    ∀ (s : Engine R) (w : WaypointState R),s.ctx.odomOk=true →
      w.event.nodeEventList=some entries → j < w.wpList.length → j=w.wpIdx+n →
      ThrowsOnTicks pf (s.enterExcute pf w) := by
  induction n with
  | zero =>
    intro s w _ hentries hlen hj
    have hin : w.InRange := by rwa [WaypointState.InRange,←show j=w.wpIdx from hj]
    have hthrows : (w.runNode pf).2=true :=
      (runNode_throws_iff pf w).mpr ⟨entries,hentries,by rwa [←show j=w.wpIdx from hj]⟩
    refine ⟨[],?_⟩
    dsimp only [enterExcute]
    rw [if_pos hin]
    exact List.mem_append_left _ ((missionThrew_mem_excuteOutputs pf w).mpr hthrows)
  | succ n ih =>
    intro s w hodom hentries hlen hj
    have hleft : w.advance.InRange := by
      rw [WaypointState.InRange,w.advance_wpIdx,w.advance_wpList]
      omega
    have hj' : j=w.advance.wpIdx+n := by
      rw [w.advance_wpIdx]
      omega
    have harrive : ThrowsOnTicks pf ((s.enterExcute pf w).arrive pf w) := by
      unfold arrive
      dsimp only
      split
      · rename_i hfin
        exact absurd hleft ((w.arrival_eq_finish_iff).mp hfin)
      · exact throwsOnTicks_of_lifting (enterLifting_active _ _)
          (ih _ _ (by simpa using hodom) hentries hlen hj')
      · exact ih _ _ (by simpa using hodom) hentries hlen hj'
    refine throwsOnTicks_of_tick { reached := true } ?_
    simpa only [step,tick,enterExcute_active,enterExcute_ctx,hodom,and_self,if_true] using harrive

/-- A mission that has begun without events for all its legs throws once ticks
have taken it to the leg in question. -/
theorem misfit_mission_throws (pf : Platform R) (s : Engine R) (w : WaypointState R)
    (hw : s.active=.waypoint w .lifting) (hfirst : w.wpIdx=0) (hodom : s.ctx.odomOk=true)
    (hmisfit : ¬NodeEventsOk w.event.nodeEventList w.wpList.length) : ThrowsOnTicks pf s := by
  dsimp only [NodeEventsOk] at hmisfit
  push Not at hmisfit
  obtain ⟨entries,hentries,j,hlen,hbad⟩ := hmisfit
  refine throwsOnTicks_of_lifting hw ?_
  refine throwsOnTicks_enterExcute pf ?_ j s w hodom hentries hlen (by rw [hfirst,Nat.zero_add])
  rintro ⟨entry,hentry,hok⟩
  exact hbad entry hentry hok

/-- In every run whose requests come with node events for all legs, no access of
a mission throws. -/
theorem missions_never_throw (pf : Platform R) (x : Sensors R) (labels : List (Label R))
    (hfit : Guarded (step pf) (EventsFit pf) (initial x) labels) :
    .missionThrew∉(runFrom (step pf) (initial x) labels).log := by
  refine ((accessSafe_rule pf).run x ⟨by simp [initial],fun _ _ hw => (nomatch hw)⟩ labels
    (guarded_mono ?_ labels hfit)).quiet
  intro s l hl
  refine ⟨?_,fun _ _ _ _ => trivial⟩
  cases l with
  | setWaypoint id e =>
    intro m hm
    rw [acceptWaypoint_nodeEventList hm,legs_of_accepted hm]
    exact hl ⟨_,hm⟩
  | _ => exact trivial

end

/-- Two points, of which one is flown, then the return leg; with the given number
of empty entries of node events. -/
def returningRequest (entries : ℕ) : SetWaypointEvent ℚ where
  waypoint := [⟨0,0,10⟩,⟨5,0,10⟩]
  nodeEventList := some (List.replicate entries .null)
  finishAction := .returnHome
  isLocal := true

/-- Hovering, the request, the first leg, and the arrival at its end. -/
def returningRun (entries : ℕ) : List (Label ℚ) :=
  [.tick {},.setWaypoint 0 (returningRequest entries),.tick { stalled := true },
    .tick { reached := true }]

/-- With an entry for the return leg as well, the run throws nothing. -/
theorem returning_never_throws :
    .missionThrew∉(runFrom (step calmPlatform) (initial hovering) (returningRun 2)).log := by
  refine missions_never_throw calmPlatform hovering (returningRun 2)
    ⟨trivial,fun _ entries hentries i hi => ?_,trivial,trivial,trivial⟩
  obtain rfl := Option.some.inj hentries
  have hi' : i < 2 := hi
  refine ⟨.null,?_,fun event hevent => (nomatch hevent)⟩
  rw [List.getElem?_replicate,if_pos hi']

/-- With an entry for the flown point only, the return leg throws although the
request was accepted; so an accepted mission may throw. -/
theorem return_leg_throws :
    ¬∀ (pf : Platform ℚ) (x : Sensors ℚ) (labels : List (Label ℚ)),
      .missionThrew∉(runFrom (step pf) (initial x) labels).log := by
  intro h
  have hlog : ∃ rest,(runFrom (step calmPlatform) (initial hovering) (returningRun 1)).log=
      .missionThrew::rest := ⟨_,rfl⟩
  obtain ⟨rest,hrest⟩ := hlog
  refine h calmPlatform hovering (returningRun 1) ?_
  rw [hrest]
  exact List.mem_cons_self

end Dankong.Flight

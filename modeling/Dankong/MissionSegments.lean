import Mathlib.Data.List.Dedup
import Dankong.MissionProgress

/-!
# The path segments of a mission

Entering a leg sends the points from the current one to the next dwell point.
Every mission has one mark for each point and dwells at the last one, so each
segment is a non-empty slice, and the segments that begin a leg make up the
mission, however often an interruption makes the engine send a segment again.
-/

namespace Dankong.Flight

open Engine Runs

variable {R : Type*}

namespace WaypointState

/-- One mark for each point, and the last point is a dwell point. -/
structure WellMarked (w : WaypointState R) : Prop where
  length : w.isDwellPoint.length=w.wpList.length
  last : w.isDwellPoint.getLast?=some true

/-- The points from index `i` to the first dwell point from there on. -/
def IsSlice (w : WaypointState R) (i : ℕ) (points : List (Vec3 R)) : Prop :=
  ∃ k,i≤k ∧ k<w.wpList.length ∧ w.isDwellPoint[k]?=some true ∧
    (∀ j,i≤j → j<k → w.isDwellPoint[j]?=some false) ∧
    points=(w.wpList.drop i).take (k+1-i)

/-- The segment sent when the point with index `i` is the current one. -/
def segmentAt (w : WaypointState R) (i : ℕ) : List (Vec3 R) := { w with wpIdx := i }.segment

/-- The indices whose segments begin a leg: the first one and those behind a dwell
point. -/
def startsLeg (w : WaypointState R) (i : ℕ) : Bool :=
  decide ((true::w.isDwellPoint)[i]?=some true)

end WaypointState

/-- Indices of the points for which a path was sent since the latest mission was
entered, oldest first; an index counts the reports before. -/
def sentIndices : List (Output R) → List ℕ
  | [] => []
  | .missionEntered _ _::_ => []
  | .path _ _::log => sentIndices log++[(reports log).length]
  | _::log => sentIndices log

/-- A path sent after these outputs is a segment of the latest mission, at its current
point and with its speed. -/
def PathRight (pf : Platform R) (points : List (Vec3 R)) (speed : Option R)
    (log : List (Output R)) : Prop :=
  ∃ e w,latestMission log=some e ∧ missionEntry pf e=.fly w ∧ w.WellMarked ∧ speed=e.speed ∧
    points≠[] ∧ w.IsSlice (reports log).length points

/-- The segments sent in one state, for its active and its latest mission. -/
structure SegmentsRight (pf : Platform R) (s : Engine R) : Prop where
  /-- The active mission is the latest one as it was entered, apart from its index. -/
  flown : ∀ w c,s.active=.waypoint w c → latestMission s.log=some w.event ∧
    missionEntry pf w.event=.fly { w with wpIdx := 0 } ∧ w.WellMarked
  /-- Its index counts the reports, and exists. -/
  index : ∀ w c,s.active=.waypoint w c → w.wpIdx=(reports s.log).length ∧
    w.wpIdx < w.wpList.length
  /-- Entering a leg has sent a path. -/
  current : ∀ w,s.active=.waypoint w .excute → w.wpIdx∈sentIndices s.log
  /-- Every path is the right slice. -/
  sent : ∀ earlier points speed log,s.log=earlier++.path points speed::log →
    PathRight pf points speed log
  /-- Paths are sent in the order of the points. -/
  sorted : (sentIndices s.log).Pairwise (· ≤ ·)
  /-- Once a mission is done, the segments that begin a leg have been all its points. -/
  cover : ∀ e w,latestMission s.log=some e → missionEntry pf e=.fly w → .done∈reports s.log →
    ((sentIndices s.log).dedup.filter w.startsLeg).flatMap w.segmentAt=w.wpList

section

/-- A list of points with a marked last one is cut behind its first marked one. -/
theorem takeToDwell_eq_take (points : List (Vec3 R)) (marks : List Bool)
    (hlen : marks.length=points.length) (hlast : marks.getLast?=some true) :
    ∃ k,k<points.length ∧ marks[k]?=some true ∧ (∀ j<k,marks[j]?=some false) ∧
      takeToDwell points marks=points.take (k+1) := by
  induction points generalizing marks with
  | nil =>
    rw [List.length_eq_zero_iff.mp hlen] at hlast
    cases hlast
  | cons p rest ih =>
    cases marks with
    | nil => cases hlast
    | cons m marks =>
      have hlen' : marks.length=rest.length := Nat.succ_inj.mp hlen
      cases m with
      | true => exact ⟨0,Nat.succ_pos _,rfl,fun j hj => absurd hj (Nat.not_lt_zero j),rfl⟩
      | false =>
        have hlast' : marks.getLast?=some true := by
          cases marks with
          | nil => cases hlast
          | cons m' marks' => rwa [List.getLast?_cons_cons] at hlast
        obtain ⟨k,hk,hmark,hbefore,htake⟩ := ih marks hlen' hlast'
        refine ⟨k+1,Nat.succ_lt_succ hk,hmark,fun j hj => ?_,?_⟩
        · cases j with
          | zero => rfl
          | succ j => exact hbefore j (by omega)
        · rw [takeToDwell,htake,List.take_succ_cons]

/-- The points of the segments that begin where `starts` says, cut at marked points. -/
def legPoints (starts marks : List Bool) (points : List (Vec3 R)) : List (Vec3 R) :=
  ((List.range points.length).filter fun i => decide (starts[i]?=some true)).flatMap
    fun i => takeToDwell (points.drop i) (marks.drop i)

/-- The first segment, if one begins there, and the others. -/
theorem legPoints_cons (start mark : Bool) (starts marks : List Bool) (p : Vec3 R)
    (points : List (Vec3 R)) :
    legPoints (start::starts) (mark::marks) (p::points)=
      (if start=true then takeToDwell (p::points) (mark::marks) else [])++
        legPoints starts marks points := by
  have hrest : ((List.map Nat.succ (List.range points.length)).filter
        fun i => decide ((start::starts)[i]?=some true)).flatMap
        (fun i => takeToDwell ((p::points).drop i) ((mark::marks).drop i))=
      legPoints starts marks points := by
    rw [List.filter_map,List.flatMap_map]
    rfl
  rw [←hrest,legPoints,List.length_cons,List.range_succ_eq_map,List.filter_cons]
  cases start with
  | true => rfl
  | false => rfl

/-- Segments that begin at the first point and behind each marked point make up all
points. -/
theorem legPoints_eq (marks : List Bool) (points : List (Vec3 R))
    (hlen : marks.length=points.length) : legPoints (true::marks) marks points=points := by
  induction points generalizing marks with
  | nil => rfl
  | cons p rest ih =>
    cases marks with
    | nil => cases hlen
    | cons m marks =>
      have hlen' : marks.length=rest.length := Nat.succ_inj.mp hlen
      have hih := ih marks hlen'
      rw [legPoints_cons,if_pos rfl]
      cases m with
      | true =>
        rw [hih]
        rfl
      | false =>
        -- the segment runs on: its rest is what a segment from the next point would be
        rw [takeToDwell,List.cons_append]
        congr 1
        cases rest with
        | nil => rfl
        | cons q rest =>
          cases marks with
          | nil => cases hlen'
          | cons m' marks =>
            rw [legPoints_cons] at hih ⊢
            exact hih

/-- A mission that is flown has one mark for each point, and the last one is set. -/
theorem wellMarked_missionEntry {pf : Platform R} {e : SetWaypointEvent R} {w : WaypointState R}
    (h : missionEntry pf e=.fly w) : w.WellMarked := by
  have hmarks := missionEntry_isDwellPoint h
  obtain ⟨_,hpoints,_,hne⟩ := missionEntry_fly h
  have hlength : w.isDwellPoint.length=w.wpList.length := by
    rw [hmarks,hpoints,markLast,List.length_mapIdx,markSharpTurns,List.length_mapIdx,
      length_withReturn]
  refine ⟨hlength,?_⟩
  have hpos : 0 < w.isDwellPoint.length := by
    rw [hlength]
    exact List.length_pos_iff.mpr hne
  rw [hmarks] at hpos ⊢
  rw [List.getLast?_eq_getElem?,markLast,List.getElem?_mapIdx]
  rw [markLast,List.length_mapIdx] at hpos
  rw [List.length_mapIdx,List.getElem?_eq_getElem (by omega),Option.map_some,
    show (markSharpTurns pf (withReturn e).1 (withReturn e).2).length-1+1=
      (markSharpTurns pf (withReturn e).1 (withReturn e).2).length by omega]
  simp

/-- The segment from any point of a mission is the slice to the next dwell point. -/
theorem isSlice_segmentAt {w : WaypointState R} (h : w.WellMarked) {i : ℕ}
    (hi : i < w.wpList.length) : w.segmentAt i≠[] ∧ w.IsSlice i (w.segmentAt i) := by
  have hlen : (w.isDwellPoint.drop i).length=(w.wpList.drop i).length := by
    rw [List.length_drop,List.length_drop,h.length]
  have hlast : (w.isDwellPoint.drop i).getLast?=some true := by
    have hsome : ¬w.isDwellPoint.length ≤ i := by
      rw [h.length]
      omega
    rw [List.getLast?_drop,if_neg hsome,h.last]
  obtain ⟨k,hk,hmark,hbefore,htake⟩ := takeToDwell_eq_take _ _ hlen hlast
  rw [List.length_drop] at hk
  rw [List.getElem?_drop] at hmark
  have hsegment : w.segmentAt i=(w.wpList.drop i).take (i+k+1-i) := by
    rw [show i+k+1-i=k+1 by omega]
    exact htake
  refine ⟨?_,i+k,Nat.le_add_right i k,by omega,hmark,fun j hij hj => ?_,hsegment⟩
  · rw [hsegment,←List.length_pos_iff,List.length_take,List.length_drop]
    omega
  · have hj' := hbefore (j-i) (by omega)
    rwa [List.getElem?_drop,show i+(j-i)=j by omega] at hj'

/-- The segments that begin a leg make up the mission. -/
theorem flatMap_segmentAt {w : WaypointState R} (h : w.WellMarked) :
    ((List.range w.wpList.length).filter w.startsLeg).flatMap w.segmentAt=w.wpList :=
  legPoints_eq w.isDwellPoint w.wpList h.length

/-- Every path is right for the outputs before it. -/
def SentRight (pf : Platform R) : List (Output R) → Prop
  | [] => True
  | .path points speed::log => PathRight pf points speed log ∧ SentRight pf log
  | _::log => SentRight pf log

/-- Each of the paths is right for the outputs before it. -/
theorem sentRight_suffix {pf : Platform R} {log : List (Output R)} (h : SentRight pf log)
    {earlier rest : List (Output R)} {points : List (Vec3 R)} {speed : Option R}
    (hlog : log=earlier++.path points speed::rest) : PathRight pf points speed rest := by
  induction earlier generalizing log with
  | nil =>
    rw [hlog] at h
    exact h.1
  | cons o earlier ih =>
    rw [hlog,List.cons_append] at h
    have hrest : SentRight pf (earlier++.path points speed::rest) := by
      cases o with
      | path points' speed' => exact h.2
      | _ => exact h
    exact ih hrest rfl

/-- Entering a leg sends its path first. -/
theorem excuteOutputs_eq (pf : Platform R) (w : WaypointState R) :
    ∃ others,excuteOutputs pf w=others++[.path w.segment w.event.speed] ∧
      ∀ o∈others,(∃ i command,o=.node i command) ∨ o=.missionThrew := by
  refine ⟨_,rfl,fun o ho => ?_⟩
  rcases List.mem_append.mp ho with ho|ho
  · split at ho
    · exact Or.inr (List.mem_singleton.mp ho)
    · cases ho
  · obtain ⟨command,_,rfl⟩ := List.mem_map.mp (List.mem_reverse.mp ho)
    exact Or.inl ⟨_,_,rfl⟩

/-- Entering a leg sends the path of that leg. -/
theorem sent_excuteOutputs (pf : Platform R) (w : WaypointState R) (log : List (Output R)) :
    sentIndices (excuteOutputs pf w++log)=sentIndices log++[(reports log).length] ∧
      (SentRight pf (excuteOutputs pf w++log) ↔
        PathRight pf w.segment w.event.speed log ∧ SentRight pf log) := by
  obtain ⟨others,heq,hothers⟩ := excuteOutputs_eq pf w
  rw [heq,List.append_assoc,List.singleton_append]
  clear heq
  induction others with
  | nil => exact ⟨rfl,Iff.rfl⟩
  | cons o others ih =>
    have hrest := ih fun o' ho' => hothers o' (List.mem_cons_of_mem _ ho')
    rcases hothers o List.mem_cons_self with ⟨i,command,rfl⟩|rfl
    · exact hrest
    · exact hrest

end

/-- The paths sent so far are right, and in the order of the points up to the current
one. -/
structure Segmented (pf : Platform R) (s : Engine R) : Prop where
  /-- The reports count the arrivals. -/
  counted : Counted s
  /-- The active mission is the one that was entered, apart from its index. -/
  flown : ∀ w c,s.active=.waypoint w c → missionEntry pf w.event=.fly { w with wpIdx := 0 }
  /-- Paths are right when they are sent. -/
  sent : SentRight pf s.log
  /-- Paths are sent in the order of the points. -/
  sorted : (sentIndices s.log).Pairwise (· ≤ ·)
  /-- No path was sent for a point to come. -/
  below : ∀ w c,s.active=.waypoint w c → ∀ i∈sentIndices s.log,i≤w.wpIdx ∧ i < w.wpList.length
  /-- A path was sent for every point reached. -/
  reached : ∀ w c,s.active=.waypoint w c → ∀ i < w.wpIdx,i∈sentIndices s.log
  /-- While a leg is flown, its path was sent. -/
  current : ∀ w,s.active=.waypoint w .excute → w.InRange → w.wpIdx∈sentIndices s.log
  /-- Once the latest mission is done, a path was sent for each of its points. -/
  finished : ∀ e,latestMission s.log=some e → .done∈reports s.log →
    ∀ i,i∈sentIndices s.log ↔ i < e.legs

section

variable {pf : Platform R}

/-- Changes that add neither paths nor reports keep the segments. -/
theorem segmented_of_eq {s t : Engine R} (h : Segmented pf s) (hc : Counted t)
    (hr : reports t.log=reports s.log) (hm : latestMission t.log=latestMission s.log)
    (hn : sentIndices t.log=sentIndices s.log) (hs : SentRight pf t.log)
    (ha : ∀ w c,t.active=.waypoint w c → ∃ c',s.active=.waypoint w c' ∧ (c=.excute → c'=.excute)) :
    Segmented pf t where
  counted := hc
  flown w c hw := by
    obtain ⟨c',hw',_⟩ := ha w c hw
    exact h.flown w c' hw'
  sent := hs
  sorted := by
    rw [hn]
    exact h.sorted
  below w c hw := by
    obtain ⟨c',hw',_⟩ := ha w c hw
    rw [hn]
    exact h.below w c' hw'
  reached w c hw := by
    obtain ⟨c',hw',_⟩ := ha w c hw
    rw [hn]
    exact h.reached w c' hw'
  current w hw hin := by
    obtain ⟨c',hw',hexcute⟩ := ha w _ hw
    rw [hexcute rfl] at hw'
    rw [hn]
    exact h.current w hw' hin
  finished e he hdone := by
    rw [hn]
    exact h.finished e (hm.symm.trans he) (by rwa [←hr])

/-- Outside missions nothing is asked of the active state. -/
theorem segmented_of_settled {s t : Engine R} (h : Segmented pf s) (hc : Counted t)
    (hr : reports t.log=reports s.log) (hm : latestMission t.log=latestMission s.log)
    (hn : sentIndices t.log=sentIndices s.log) (hs : SentRight pf t.log)
    (ha : t.active.isWaypoint=false) : Segmented pf t :=
  segmented_of_eq h hc hr hm hn hs fun w c hw => absurd hw (Active.ne_waypoint ha w c)

/-- A freshly entered mission has sent nothing. -/
theorem segmented_entered {s t : Engine R} (h : Segmented pf s) (hc : Counted t)
    {e : SetWaypointEvent R} {pos : Vec3 R} (hlog : t.log=.missionEntered e pos::s.log)
    (ha : ∀ w c,t.active=.waypoint w c → missionEntry pf w.event=.fly w ∧ c=.lifting) :
    Segmented pf t where
  counted := hc
  flown w c hw := by
    have hfly := (ha w c hw).1
    have hidx : w.wpIdx=0 := (missionEntry_fly hfly).2.2.1
    have hw0 : { w with wpIdx := 0 }=w := by rw [←hidx]
    rw [hw0]
    exact hfly
  sent := by
    rw [hlog]
    exact h.sent
  sorted := by
    rw [hlog]
    exact List.Pairwise.nil
  below w c hw i hi := by
    rw [hlog] at hi
    cases hi
  reached w c hw i hi := by
    rw [(missionEntry_fly (ha w c hw).1).2.2.1] at hi
    exact absurd hi (Nat.not_lt_zero i)
  current w hw _ := by
    cases (ha w _ hw).2
  finished e' _ hdone := by
    rw [hlog] at hdone
    cases hdone

/-- Entering a leg sends its path, behind those of the points before. -/
theorem segmented_excute {t : Engine R} {w : WaypointState R} {log : List (Output R)}
    (hc : Counted t) (ht : t.active=.waypoint w .excute) (hlog : t.log=excuteOutputs pf w++log)
    (hin : w.InRange) (hflown : missionEntry pf w.event=.fly { w with wpIdx := 0 })
    (hsent : SentRight pf log) (hsorted : (sentIndices log).Pairwise (· ≤ ·))
    (hbelow : ∀ i∈sentIndices log,i≤w.wpIdx) (hreached : ∀ i < w.wpIdx,i∈sentIndices log) :
    Segmented pf t := by
  obtain ⟨hlatest,_,_,hreports⟩ := hc.active w _ ht
  obtain ⟨hr,hm⟩ := reports_excuteOutputs pf w log
  rw [hlog,hm] at hlatest
  rw [hlog,hr] at hreports
  have hidx : (reports log).length=w.wpIdx := by
    rw [hreports]
    exact length_countedReports (Nat.ne_of_lt hin)
  obtain ⟨hindices,hright⟩ := sent_excuteOutputs pf w log
  rw [hidx] at hindices
  have hmem : ∀ i,i∈sentIndices t.log ↔ i∈sentIndices log ∨ i=w.wpIdx := by
    intro i
    rw [hlog,hindices,List.mem_append,List.mem_singleton]
  have hpath : PathRight pf w.segment w.event.speed log := by
    have hmarked : ({ w with wpIdx := 0 } : WaypointState R).WellMarked :=
      wellMarked_missionEntry hflown
    obtain ⟨hne,hslice⟩ := isSlice_segmentAt hmarked (i := w.wpIdx) hin
    refine ⟨w.event,_,hlatest,hflown,hmarked,rfl,hne,?_⟩
    rw [hidx]
    exact hslice
  have hsame : ∀ w' c,t.active=.waypoint w' c → w'=w := by
    intro w' c hw'
    rw [ht] at hw'
    cases hw'
    rfl
  constructor
  · exact hc
  · intro w' c hw'
    rw [hsame w' c hw']
    exact hflown
  · rw [hlog]
    exact hright.mpr ⟨hpath,hsent⟩
  · rw [hlog,hindices]
    refine List.pairwise_append.mpr ⟨hsorted,List.pairwise_singleton _ _,fun i hi j hj => ?_⟩
    rw [List.mem_singleton.mp hj]
    exact hbelow i hi
  · intro w' c hw' i hi
    rw [hsame w' c hw']
    have hle : i≤w.wpIdx := by
      rcases (hmem i).mp hi with hold|hnew
      · exact hbelow i hold
      · omega
    have hlt : w.wpIdx < w.wpList.length := hin
    exact ⟨hle,by omega⟩
  · intro w' c hw' i hi
    rw [hsame w' c hw'] at hi
    exact (hmem i).mpr (Or.inl (hreached i hi))
  · intro w' hw' _
    rw [hsame w' _ hw']
    exact (hmem _).mpr (Or.inr rfl)
  · intro e _ hdone
    rw [hlog,hr,hreports] at hdone
    exact absurd hdone (done_not_mem_countedReports (Nat.ne_of_lt hin))

/-- While a leg is flown, the points up to the current one are those a path was sent
for. -/
theorem mem_sentIndices_iff {s : Engine R} (h : Segmented pf s) {w : WaypointState R}
    (hw : s.active=.waypoint w .excute) (hin : w.InRange) (i : ℕ) :
    i∈sentIndices s.log ↔ i < w.wpIdx+1 := by
  constructor
  · intro hi
    have hle := (h.below w _ hw i hi).1
    omega
  · intro hi
    rcases Nat.lt_or_eq_of_le (Nat.le_of_lt_succ hi) with hlt|heq
    · exact h.reached w _ hw i hlt
    · rw [heq]
      exact h.current w hw hin

/-- The mission after an arrival is the entered one as well. -/
theorem flown_advance {s : Engine R} (h : Segmented pf s) {w : WaypointState R}
    {c : WaypointChild R} (hw : s.active=.waypoint w c) :
    missionEntry pf w.advance.event=.fly { w.advance with wpIdx := 0 } := h.flown w c hw

/-- An arrival that enters no leg keeps the segments, for the next point. -/
theorem segmented_arrived {s t : Engine R} (h : Segmented pf s) {w : WaypointState R}
    {c : WaypointChild R} (hw : s.active=.waypoint w .excute) (hin : w.InRange) (hc : Counted t)
    (ht : t.active=.waypoint w.advance c) (hn : sentIndices t.log=sentIndices s.log)
    (hs : SentRight pf t.log) (hleg : c=.excute → ¬w.advance.InRange) : Segmented pf t := by
  have hmem := mem_sentIndices_iff h hw hin
  obtain ⟨hlatest,hlen,_,hreports⟩ := hc.active w.advance c ht
  have hsame : ∀ w' c',t.active=.waypoint w' c' → w'=w.advance ∧ c'=c := by
    intro w' c' hw'
    rw [ht] at hw'
    cases hw'
    exact ⟨rfl,rfl⟩
  constructor
  · exact hc
  · intro w' c' hw'
    rw [(hsame w' c' hw').1]
    exact flown_advance h hw
  · exact hs
  · rw [hn]
    exact h.sorted
  · intro w' c' hw' i hi
    rw [hn,hmem] at hi
    have hlt : w.wpIdx < w.wpList.length := hin
    rw [(hsame w' c' hw').1,w.advance_wpIdx,w.advance_wpList]
    omega
  · intro w' c' hw' i hi
    rw [(hsame w' c' hw').1,w.advance_wpIdx] at hi
    rw [hn]
    exact (hmem i).mpr hi
  · intro w' hw' hin'
    obtain ⟨rfl,hexcute⟩ := hsame w' _ hw'
    exact absurd hin' (hleg hexcute.symm)
  · intro e he hdone i
    obtain rfl := Option.some.inj (hlatest.symm.trans he)
    have hall : w.advance.wpIdx=w.advance.wpList.length := by
      by_contra hne
      rw [hreports] at hdone
      exact done_not_mem_countedReports hne hdone
    rw [hn,hmem,←hlen,←hall,w.advance_wpIdx]

/-- Every elementary change keeps the segments. -/
theorem segmented_rule (pf : Platform R) :
    StepRule pf (fun _ => True) (fun _ _ => True) (Segmented pf) where
  again _ _ := trivial
  plan s q fb h := segmented_of_eq h ((counted_rule pf).plan s q fb h.counted) rfl rfl rfl h.sent
    fun w c hw => ⟨c,hw,id⟩
  answer s id' result h := segmented_of_eq h ((counted_rule pf).answer s id' result h.counted)
    rfl rfl rfl h.sent fun w c hw => ⟨c,hw,id⟩
  sense s x h := segmented_of_eq h ((counted_rule pf).sense s x h.counted) rfl rfl rfl h.sent
    fun w c hw => ⟨c,hw,id⟩
  quiet s o ho h := by
    have hc := (counted_rule pf).quiet s o ho h.counted
    cases o with
    | ran p => exact segmented_of_eq h hc rfl rfl rfl h.sent fun w c hw => ⟨c,hw,id⟩
    | posVelThrew => exact segmented_of_eq h hc rfl rfl rfl h.sent fun w c hw => ⟨c,hw,id⟩
    | posVelHung => exact segmented_of_eq h hc rfl rfl rfl h.sent fun w c hw => ⟨c,hw,id⟩
    | _ => cases ho
  settle s a ha h := segmented_of_settled h ((counted_rule pf).settle s a ha h.counted)
    rfl rfl rfl h.sent ha
  ground s h := segmented_of_settled h ((counted_rule pf).ground s h.counted) rfl rfl rfl h.sent rfl
  restart s h := segmented_of_settled h ((counted_rule pf).restart s h.counted)
    rfl rfl rfl h.sent rfl
  takeoff s event alt point h := segmented_of_settled h
    ((counted_rule pf).takeoff s event alt point h.counted) rfl rfl rfl h.sent rfl
  skip s m a hm ha h := segmented_entered h ((counted_rule pf).skip s m a hm ha h.counted) rfl
    fun w c hw => absurd hw (Active.ne_waypoint ha w c)
  fly s m w hm hw h := segmented_entered h ((counted_rule pf).fly s m w hm hw h.counted) rfl
    fun w' c hw' => by
      cases hw'
      rw [(missionEntry_fly hw).1]
      exact ⟨hw,rfl⟩
  interrupt s w c x hw hok h := segmented_of_eq h
    ((counted_rule pf).interrupt s w c x hw hok h.counted) rfl rfl rfl h.sent fun w' c' hw' => by
      cases hw'
      exact ⟨c,hw,by nofun⟩
  resume s w x hw hin h := segmented_of_eq h
    ((counted_rule pf).resume s w x hw hin h.counted) rfl rfl rfl h.sent fun w' c' hw' => by
      cases hw'
      exact ⟨_,hw,by nofun⟩
  excute s w hw hin h :=
    segmented_excute ((counted_rule pf).excute s w hw hin h.counted) rfl rfl hin (h.flown w _ hw)
      h.sent h.sorted (fun i hi => (h.below w _ hw i hi).1) (h.reached w _ hw)
  lift s w hw hin h := segmented_arrived h hw (Nat.lt_of_succ_lt hin)
    ((counted_rule pf).lift s w hw hin h.counted) rfl rfl h.sent (by nofun)
  next s w hw hin h := by
    have hin' : w.wpIdx+1 < w.wpList.length := hin
    have hmem := mem_sentIndices_iff h hw (Nat.lt_of_succ_lt hin')
    have hbelow : ∀ i∈sentIndices s.log,i≤w.advance.wpIdx := by
      intro i hi
      have hlt := (hmem i).mp hi
      rw [w.advance_wpIdx]
      omega
    exact segmented_excute ((counted_rule pf).next s w hw hin h.counted) rfl rfl hin
      (flown_advance h hw) h.sent h.sorted hbelow (fun i hi => (hmem i).mpr hi)
  finish s w hw hin hout h := segmented_arrived h hw hin
    ((counted_rule pf).finish s w hw hin hout h.counted) rfl rfl h.sent fun _ => hout

end

/-- Indices in order that are those below a bound are, without repetition, the range. -/
theorem dedup_eq_range {l : List ℕ} {n : ℕ} (hsorted : l.Pairwise (· ≤ ·))
    (hmem : ∀ i,i∈l ↔ i < n) : l.dedup=List.range n := by
  have hperm : l.dedup.Perm (List.range n) := by
    refine (List.perm_ext_iff_of_nodup (List.nodup_dedup l) List.nodup_range).mpr fun i => ?_
    rw [List.mem_dedup,hmem,List.mem_range]
  exact hperm.eq_of_pairwise (fun a b _ _ hab hba => Nat.le_antisymm hab hba)
    (hsorted.sublist (List.dedup_sublist l)) List.pairwise_le_range

/-- In every reachable state every path that was sent is the slice of its mission from the
current point to the next dwell point, and the segments of a finished mission cover it. -/
theorem segments_right [Field R] (pf : Platform R) (x : Sensors R) (labels : List (Label R)) :
    SegmentsRight pf (runFrom (step pf) (initial x) labels) := by
  have hd := run_disciplined pf x labels
  have h : Segmented pf (runFrom (step pf) (initial x) labels) :=
    (segmented_rule pf).run_unguarded x
      ⟨⟨fun _ he => (nomatch he),fun _ _ hw => (nomatch hw)⟩,fun _ _ hw => (nomatch hw),trivial,
        List.Pairwise.nil,fun _ _ hw => (nomatch hw),fun _ _ hw => (nomatch hw),
        fun _ hw => (nomatch hw),fun _ he => (nomatch he)⟩ labels
  constructor
  · intro w c hw
    have hflown := h.flown w c hw
    have hmarked : ({ w with wpIdx := 0 } : WaypointState R).WellMarked :=
      wellMarked_missionEntry hflown
    exact ⟨(h.counted.active w c hw).1,hflown,hmarked.length,hmarked.last⟩
  · intro w c hw
    have hin := (hd.mission w c hw).1
    refine ⟨?_,hin⟩
    rw [(h.counted.active w c hw).2.2.2]
    exact (length_countedReports (Nat.ne_of_lt hin)).symm
  · intro w hw
    exact h.current w hw (hd.mission w _ hw).1
  · intro earlier points speed log hlog
    exact sentRight_suffix h.sent hlog
  · exact h.sorted
  · intro e w he hw hdone
    have hlen : e.legs=w.wpList.length := by
      rw [(missionEntry_fly hw).2.1]
      rfl
    have hrange : (sentIndices (runFrom (step pf) (initial x) labels).log).dedup=
        List.range w.wpList.length :=
      dedup_eq_range h.sorted fun i => by rw [←hlen]; exact h.finished e he hdone i
    rw [hrange]
    exact flatMap_segmentAt (wellMarked_missionEntry hw)

end Dankong.Flight

import Dankong.StateUtils
import Dankong.WaypointRequest

/-!
# Sharp turns

On entry a mission marks its sharp turns as dwell points. Only a point whose two
neighbours are waypoints at some distance is looked at, so the turn at the first
waypoint and the turns at repeated points stay unmarked, unless the request asks
for a dwell there.
-/

namespace Dankong.Flight

open StateUtils

noncomputable section

/-- `CLOSE_THRESH`: points this close are taken for the same point. -/
def closeThresh : ℝ := 0.1

/-- `TURN_ANGLE_THRESH`: 60 degrees. -/
def turnAngleThresh : ℝ := 60.0*Real.pi/180.0

open Classical in
/-- The turn test of `WaypointState::on_enter`. -/
def sharpTurn (before here next : Vec3 ℝ) : Bool :=
  let v1 := (here.sub before).horizontal
  let v2 := (next.sub here).horizontal
  let cosTheta := (v1.x*v2.x+v1.y*v2.y)/(hypot v1.x v1.y*hypot v2.x v2.y)
  decide (closeThresh < hypot v1.x v1.y ∧ closeThresh < hypot v2.x v2.y ∧
    turnAngleThresh < Real.arccos (clamp cosTheta (-1) 1))

/-- A platform with this turn test. -/
def turning (pf : Platform ℝ) : Platform ℝ := { pf with sharpTurn := sharpTurn }

/-- The horizontal way from one point to another, as a complex number. -/
def way (a b : Vec3 ℝ) : ℂ := ⟨b.x-a.x,b.y-a.y⟩

/-- Points of a route that begins at the start position. -/
def routePoint (start : Vec3 ℝ) (points : List (Vec3 ℝ)) (k : ℕ) : Vec3 ℝ :=
  (start::points).getD k start

/-- The leg to the waypoint with index `k`. -/
def leg (start : Vec3 ℝ) (points : List (Vec3 ℝ)) (k : ℕ) : ℂ :=
  way (routePoint start points k) (routePoint start points (k+1))

end

section

variable (start : Vec3 ℝ) (points : List (Vec3 ℝ))

/-- A leg between points that count as distinct. -/
def Long (k : ℕ) : Prop := closeThresh<‖leg start points k‖

/-- The last leg to waypoint `i` that is not skipped. -/
def Incoming (i k : ℕ) : Prop :=
  k ≤ i ∧ Long start points k ∧ ∀ m,k < m → m ≤ i → ¬Long start points m

/-- The first leg from waypoint `i` that is not skipped. -/
def Outgoing (i k : ℕ) : Prop :=
  i < k ∧ k<points.length ∧ Long start points k ∧ ∀ m,i < m → m < k → ¬Long start points m

/-- Between two waypoints there are only legs that are skipped. -/
def Coincident (i j : ℕ) : Prop := ∀ m,min i j < m → m≤ max i j → ¬Long start points m

/-- Where the route goes straight enough at waypoint `i`. -/
def StraightAt (i : ℕ) : Prop :=
  ∀ k l,Incoming start points i k → Outgoing start points i l →
    InnerProductGeometry.angle (leg start points k) (leg start points l)≤turnAngleThresh

/-- The vehicle stops at every sharp turn: where neither a waypoint nor one coincident
with it is a dwell point, the route goes straight enough. -/
def StopsAtSharpTurns (marks : List Bool) : Prop :=
  ∀ i < points.length,
    (∀ j < points.length,Coincident start points i j → marks[j]?≠some true) →
      StraightAt start points i

/-- The turn at waypoint `i` is not looked at: it is the first one, or too close to the
one before or behind it. -/
def Unchecked (i : ℕ) : Prop := i=0 ∨ ¬Long start points i ∨ ¬Long start points (i+1)

/-- At the waypoints that are not looked at, the route goes straight enough or the request
asks for a dwell; the last waypoint needs none. -/
def StraightWhereUnchecked (e : SetWaypointEvent ℝ) : Prop :=
  ∀ i < points.length,Unchecked start points i →
    (∀ j < points.length,Coincident start points i j →
      e.skipLifting=true ∧ (j : ℤ)∉e.dwellIndices ∧ j+1≠points.length) →
      StraightAt start points i

end

section

variable {start : Vec3 ℝ} {points : List (Vec3 ℝ)}

/-- The turn test compares the angle between the two ways, if both count. -/
theorem sharpTurn_iff (before here next : Vec3 ℝ) :
    sharpTurn before here next=true ↔
      closeThresh<‖way before here‖ ∧ closeThresh<‖way here next‖ ∧
        turnAngleThresh < InnerProductGeometry.angle (way before here) (way here next) := by
  have hcos : (way before here).re*(way here next).re+(way before here).im*(way here next).im=
      inner ℝ (way before here) (way here next) := by
    rw [Complex.inner]
    simp only [Complex.mul_re,Complex.conj_re,Complex.conj_im]
    ring
  have hbound := abs_le.mp (abs_real_inner_div_norm_mul_norm_le_one (way before here) (way here next))
  have hangle : Real.arccos (clamp (((way before here).re*(way here next).re+
        (way before here).im*(way here next).im)/
        (hypot (way before here).re (way before here).im*
          hypot (way here next).re (way here next).im)) (-1) 1)=
      InnerProductGeometry.angle (way before here) (way here next) := by
    rw [hypot_eq_norm,hypot_eq_norm,hcos]
    change Real.arccos (clamp (inner ℝ (way before here) (way here next)/
      (‖way before here‖*‖way here next‖)) (-1) 1)=_
    rw [clamp_of_mem hbound.1 hbound.2]
    rfl
  rw [←hangle]
  dsimp only [sharpTurn]
  rw [decide_eq_true_iff,hypot_eq_norm,hypot_eq_norm]
  rfl

/-- Where a mission that is flown has a dwell point: where it is asked for, at a sharp turn
between two other waypoints, and at the end. -/
theorem isDwellPoint_iff {R : Type*} {pf : Platform R} {e : SetWaypointEvent R}
    {w : WaypointState R} (h : missionEntry pf e=.fly w) {i : ℕ} (hi : i < w.wpList.length) :
    w.isDwellPoint[i]?=some true ↔ (withReturn e).2[i]?=some true ∨
      (1 ≤ i ∧ ∃ before here next,w.wpList[i-1]?=some before ∧ w.wpList[i]?=some here ∧
        w.wpList[i+1]?=some next ∧ pf.sharpTurn before here next=true) ∨
      i+1=w.wpList.length := by
  have hpoints := (missionEntry_fly h).2.1
  have hlen : (withReturn e).2.length=w.wpList.length := by rw [hpoints,length_withReturn]
  obtain ⟨first,hfirst⟩ : ∃ first,(withReturn e).2[i]?=some first :=
    ⟨_,List.getElem?_eq_getElem (by omega)⟩
  rw [missionEntry_isDwellPoint h,markLast,List.getElem?_mapIdx,markSharpTurns,List.getElem?_mapIdx,
    hfirst,List.length_mapIdx,hlen,←hpoints]
  simp only [Option.map_some,Option.some.injEq,Bool.or_eq_true,decide_eq_true_eq,or_assoc]
  refine or_congr_right (or_congr_left ?_)
  split
  · rename_i before here next hbefore hhere hnext
    rw [Bool.and_eq_true,decide_eq_true_eq,hbefore,hhere,hnext]
    constructor
    · rintro ⟨hpos,hsharp⟩
      exact ⟨hpos,before,here,next,rfl,rfl,rfl,hsharp⟩
    · rintro ⟨hpos,_,_,_,⟨⟩,⟨⟩,⟨⟩,hsharp⟩
      exact ⟨hpos,hsharp⟩
  · rename_i hnone
    constructor
    · intro hfalse
      cases hfalse
    · rintro ⟨_,before,here,next,hbefore,hhere,hnext,_⟩
      exact (hnone before here next hbefore hhere hnext).elim

/-- Before the end, a dwell is asked for at every point or at the listed ones. -/
theorem withReturn_dwell_iff {R : Type*} (e : SetWaypointEvent R) {i : ℕ}
    (hi : i+1 < (withReturn e).1.length) :
    (withReturn e).2[i]?=some true ↔ ¬(e.skipLifting=true ∧ (i : ℤ)∉e.dwellIndices) := by
  have hinitial : i<e.waypoint.length → ((initialDwell e)[i]?=some true ↔
      ¬(e.skipLifting=true ∧ (i : ℤ)∉e.dwellIndices)) := by
    intro hlt
    rw [initialDwell,List.getElem?_map,List.getElem?_range hlt]
    cases e.skipLifting <;> simp
  dsimp only [withReturn] at hi ⊢
  split at hi
  · rename_i home haction hreturn
    rw [List.length_append,List.length_singleton] at hi
    have hlt : i<e.waypoint.length := by omega
    have hmarks : i < (initialDwell e).length := by
      rwa [initialDwell,List.length_map,List.length_range]
    rw [List.getElem?_append_left hmarks]
    exact hinitial hlt
  · exact hinitial (Nat.lt_of_succ_lt hi)

/-- The points of a route behind its start. -/
theorem getElem?_routePoint (start : Vec3 ℝ) {points : List (Vec3 ℝ)} {k : ℕ}
    (hk : k < points.length) : points[k]?=some (routePoint start points (k+1)) := by
  rw [routePoint,List.getD_cons_succ,List.getD_eq_getElem?_getD,List.getElem?_eq_getElem hk,
    Option.getD_some]

/-- Before the end, a waypoint is a dwell point if the request asks for it, or if its
neighbours are waypoints at some distance and the turn between them is sharp. -/
theorem dwell_iff (pf : Platform ℝ) {e : SetWaypointEvent ℝ} {w : WaypointState ℝ}
    (h : missionEntry (turning pf) e=.fly w) (start : Vec3 ℝ) {i : ℕ}
    (hi : i+1 < w.wpList.length) :
    w.isDwellPoint[i]?=some true ↔ ¬(e.skipLifting=true ∧ (i : ℤ)∉e.dwellIndices) ∨
      (1 ≤ i ∧ Long start w.wpList i ∧ Long start w.wpList (i+1) ∧
        turnAngleThresh < InnerProductGeometry.angle (leg start w.wpList i)
          (leg start w.wpList (i+1))) := by
  have hpoints := (missionEntry_fly h).2.1
  rw [isDwellPoint_iff h (Nat.lt_of_succ_lt hi),withReturn_dwell_iff e (by rwa [←hpoints])]
  refine or_congr_right ?_
  constructor
  · rintro (⟨hpos,before,here,next,hbefore,hhere,hnext,hsharp⟩|hlast)
    · obtain ⟨k,rfl⟩ : ∃ k,i=k+1 := ⟨i-1,by omega⟩
      rw [Nat.add_sub_cancel,getElem?_routePoint start (by omega)] at hbefore
      rw [getElem?_routePoint start (by omega)] at hhere hnext
      cases hbefore
      cases hhere
      cases hnext
      exact ⟨hpos,(sharpTurn_iff _ _ _).mp hsharp⟩
    · omega
  · rintro ⟨hpos,hturn⟩
    refine Or.inl ⟨hpos,_,_,_,?_,getElem?_routePoint start (by omega),
      getElem?_routePoint start hi,(sharpTurn_iff _ _ _).mpr hturn⟩
    obtain ⟨k,rfl⟩ : ∃ k,i=k+1 := ⟨i-1,by omega⟩
    rw [Nat.add_sub_cancel]
    exact getElem?_routePoint start (by omega)

/-- A waypoint coincident with one that is not looked at is not looked at either. -/
theorem unchecked_of_coincident {i j : ℕ} (hi : Unchecked start points i)
    (hij : Coincident start points i j) : Unchecked start points j := by
  rcases Nat.lt_trichotomy j i with hlt|rfl|hgt
  · exact Or.inr (Or.inr (hij (j+1) (by omega) (by omega)))
  · exact hi
  · exact Or.inr (Or.inl (hij j (by omega) (by omega)))

/-- A waypoint is looked at if its neighbours are waypoints at some distance. -/
theorem not_unchecked_iff {i : ℕ} :
    ¬Unchecked start points i ↔ 1 ≤ i ∧ Long start points i ∧ Long start points (i+1) := by
  simp only [Unchecked,not_or,not_not,Nat.one_le_iff_ne_zero,ne_eq]

/-- At a waypoint that is looked at, no leg is skipped. -/
theorem straightAt_iff_of_checked {i : ℕ} (hi : ¬Unchecked start points i)
    (hlast : i+1 < points.length) :
    StraightAt start points i ↔ InnerProductGeometry.angle (leg start points i)
      (leg start points (i+1))≤turnAngleThresh := by
  obtain ⟨_,hin,hout⟩ := not_unchecked_iff.mp hi
  constructor
  · intro h
    exact h i (i+1) ⟨le_refl i,hin,fun m hm hm' => by omega⟩
      ⟨Nat.lt_succ_self i,hlast,hout,fun m hm hm' => by omega⟩
  · rintro hangle k l ⟨hki,_,hk⟩ ⟨hil,_,_,hl⟩
    obtain rfl : k=i := by
      by_contra hne
      exact hk i (by omega) (le_refl i) hin
    obtain rfl : l=k+1 := by
      by_contra hne
      exact hl (k+1) (Nat.lt_succ_self k) (by omega) hout
    exact hangle

/-- A leg along the first axis is as long as its coordinate says. -/
theorem long_axis {k : ℕ} {x : ℝ} (hleg : leg start points k=⟨x,0⟩) :
    Long start points k ↔ closeThresh < |x| := by
  rw [Long,hleg,←hypot_eq_norm,hypot,mul_zero,add_zero,Real.sqrt_mul_self_eq_abs]

/-- Turning back is a sharp turn. -/
theorem not_straightAt_of_back {i k l : ℕ} (hin : Incoming start points i k)
    (hout : Outgoing start points i l) (hback : leg start points l= -leg start points k) :
    ¬StraightAt start points i := by
  intro hstraight
  have hangle := hstraight k l hin hout
  have hne : leg start points k≠0 := by
    intro hzero
    have hlong : closeThresh<‖leg start points k‖ := hin.2.1
    rw [hzero,norm_zero,closeThresh] at hlong
    norm_num at hlong
  rw [hback,InnerProductGeometry.angle_self_neg_of_nonzero hne,turnAngleThresh] at hangle
  linarith [Real.pi_pos]

end

noncomputable section

/-- A platform with this turn test, over a plane whose geographic offsets vanish. -/
def planePlatform : Platform ℝ where
  shouldArmBeforeEnter _ := false
  isAltEnable := true
  isPrearmMsg _ := false
  utmOffset _ _ := .ok (0,0)
  yawNedToEnu := some
  sharpTurn := sharpTurn
  stof _ := none

/-- A vehicle at the origin. -/
def atOrigin : RobotContext ℝ where
  posEnu := ⟨0,0,0⟩
  lonLatAlt := ⟨0,0,0⟩

/-- A local mission at a height of 5 m over these places on the first axis. -/
def axisMission (places : List ℝ) : SetWaypointEvent ℝ where
  waypoint := places.map fun x => ⟨x,0,5⟩
  isLocal := true

end

/-- A local mission of several points is accepted without the first one. -/
theorem axisMission_accepted (x : ℝ) {places : List ℝ} (hne : places≠[]) :
    acceptWaypoint planePlatform atOrigin false false (axisMission (x::places))=
      .ok (axisMission places) := by
  have hlen : 2≤(axisMission (x::places)).waypoint.length := by
    have hpos := List.length_pos_iff.mpr hne
    dsimp only [axisMission]
    rw [List.length_map,List.length_cons]
    omega
  have hpoints : convertPoints planePlatform atOrigin (axisMission (x::places))=
      .ok (axisMission places).waypoint := by
    dsimp only [convertPoints,flownPoints]
    rw [if_pos hlen]
    simp [axisMission,atOrigin]
  dsimp only [acceptWaypoint]
  rw [hpoints]
  rfl

/-- A mission that is flown stops at every sharp turn exactly if the turns it does not look
at are not sharp, or the request asks for a dwell there. -/
theorem stopsAtSharpTurns_iff (pf : Platform ℝ) (e : SetWaypointEvent ℝ) (w : WaypointState ℝ)
    (start : Vec3 ℝ) (h : missionEntry (turning pf) e=.fly w) :
    StopsAtSharpTurns start w.wpList w.isDwellPoint ↔ StraightWhereUnchecked start w.wpList e := by
  constructor
  · intro hstops i hi hunchecked hask
    refine hstops i hi fun j hj hij hmark => ?_
    obtain ⟨hskip,hnot,hlast⟩ := hask j hj hij
    have hunchecked' := unchecked_of_coincident hunchecked hij
    rcases (dwell_iff pf h start (by omega)).mp hmark with hasked|⟨hpos,hin,hout,_⟩
    · exact hasked ⟨hskip,hnot⟩
    · rcases hunchecked' with rfl|hshort|hshort
      · omega
      · exact hshort hin
      · exact hshort hout
  · intro hstraight i hi hmarks
    have hlast : ∀ j < w.wpList.length,w.isDwellPoint[j]?≠some true → j+1 < w.wpList.length := by
      intro j hj hmark
      by_contra hend
      exact hmark ((isDwellPoint_iff h hj).mpr (Or.inr (Or.inr (by omega))))
    by_cases hunchecked : Unchecked start w.wpList i
    · refine hstraight i hi hunchecked fun j hj hij => ?_
      have hmark := hmarks j hj hij
      have hnext := hlast j hj hmark
      have hasked : ¬¬(e.skipLifting=true ∧ (j : ℤ)∉e.dwellIndices) :=
        fun hask => hmark ((dwell_iff pf h start hnext).mpr (Or.inl hask))
      obtain ⟨hskip,hnot⟩ := not_not.mp hasked
      exact ⟨hskip,hnot,by omega⟩
    · have hself : Coincident start w.wpList i i := by
        intro m hm hm'
        omega
      have hmark := hmarks i hi hself
      have hnext := hlast i hi hmark
      rw [straightAt_iff_of_checked hunchecked hnext]
      by_contra hsharp
      obtain ⟨hpos,hin,hout⟩ := not_unchecked_iff.mp hunchecked
      exact hmark ((dwell_iff pf h start hnext).mpr (Or.inr ⟨hpos,hin,hout,not_le.mp hsharp⟩))

/-- A straight route with a waypoint that is not looked at. -/
theorem straightOn_stops_iff :
    ∃ w,missionEntry (turning planePlatform) (axisMission [10,20])=.fly w ∧
      (StopsAtSharpTurns ⟨0,0,0⟩ w.wpList w.isDwellPoint ↔
        StraightWhereUnchecked ⟨0,0,0⟩ w.wpList (axisMission [10,20])) :=
  ⟨_,rfl,stopsAtSharpTurns_iff planePlatform _ _ _ rfl⟩

/-- Out to 10 m and back: the turn at the first waypoint is not marked. -/
theorem firstTurn_unmarked {w : WaypointState ℝ}
    (hw : missionEntry planePlatform (axisMission [10,0])=.fly w) :
    ¬StopsAtSharpTurns ⟨0,0,0⟩ w.wpList w.isDwellPoint := by
  have hlist : w.wpList=[⟨10,0,5⟩,⟨0,0,5⟩] := (missionEntry_fly hw).2.1
  have hmark : w.isDwellPoint[0]?≠some true := by
    intro hmark
    rcases (dwell_iff planePlatform hw ⟨0,0,0⟩ (by rw [hlist]; decide)).mp hmark
      with hasked|⟨hpos,_⟩
    · exact hasked ⟨rfl,List.not_mem_nil⟩
    · omega
  rw [hlist]
  have hleg0 : leg ⟨0,0,0⟩ [⟨10,0,5⟩,⟨0,0,5⟩] 0=⟨10,0⟩ := by norm_num [leg,way,routePoint]
  have hleg1 : leg ⟨0,0,0⟩ [⟨10,0,5⟩,⟨0,0,5⟩] 1=⟨-10,0⟩ := by norm_num [leg,way,routePoint]
  have hlong0 := (long_axis hleg0).mpr (by norm_num [closeThresh])
  have hlong1 := (long_axis hleg1).mpr (by norm_num [closeThresh])
  have hback : leg ⟨0,0,0⟩ [⟨10,0,5⟩,⟨0,0,5⟩] 1= -leg ⟨0,0,0⟩ [⟨10,0,5⟩,⟨0,0,5⟩] 0 := by
    rw [hleg0,hleg1]
    exact Complex.ext rfl neg_zero.symm
  intro hstops
  refine not_straightAt_of_back (i := 0) ⟨le_refl 0,hlong0,fun m hm hm' => by omega⟩
    ⟨Nat.zero_lt_one,Nat.lt_succ_self 1,hlong1,fun m hm hm' => by omega⟩ hback
    (hstops 0 Nat.zero_lt_two fun j hj hij => ?_)
  have hj0 : j=0 := by
    by_contra hne
    have hj' : j < 2 := hj
    exact hij 1 (by omega) (by omega) hlong1
  rw [hj0]
  exact hmark

/-- Out to 20 m and back over a repeated waypoint: the turn there is not marked. -/
theorem repeatedTurn_unmarked {w : WaypointState ℝ}
    (hw : missionEntry planePlatform (axisMission [10,20,20,10])=.fly w) :
    ¬StopsAtSharpTurns ⟨0,0,0⟩ w.wpList w.isDwellPoint := by
  have hlist : w.wpList=[⟨10,0,5⟩,⟨20,0,5⟩,⟨20,0,5⟩,⟨10,0,5⟩] := (missionEntry_fly hw).2.1
  have hleg1 : leg ⟨0,0,0⟩ [⟨10,0,5⟩,⟨20,0,5⟩,⟨20,0,5⟩,⟨10,0,5⟩] 1=⟨10,0⟩ := by
    norm_num [leg,way,routePoint]
  have hleg2 : leg ⟨0,0,0⟩ [⟨10,0,5⟩,⟨20,0,5⟩,⟨20,0,5⟩,⟨10,0,5⟩] 2=⟨0,0⟩ := by
    norm_num [leg,way,routePoint]
  have hleg3 : leg ⟨0,0,0⟩ [⟨10,0,5⟩,⟨20,0,5⟩,⟨20,0,5⟩,⟨10,0,5⟩] 3=⟨-10,0⟩ := by
    norm_num [leg,way,routePoint]
  have hlong1 := (long_axis hleg1).mpr (by norm_num [closeThresh])
  have hlong3 := (long_axis hleg3).mpr (by norm_num [closeThresh])
  have hshort2 := (long_axis hleg2).not.mpr (by norm_num [closeThresh])
  have hback : leg ⟨0,0,0⟩ [⟨10,0,5⟩,⟨20,0,5⟩,⟨20,0,5⟩,⟨10,0,5⟩] 3=
      -leg ⟨0,0,0⟩ [⟨10,0,5⟩,⟨20,0,5⟩,⟨20,0,5⟩,⟨10,0,5⟩] 1 := by
    rw [hleg1,hleg3]
    exact Complex.ext rfl neg_zero.symm
  have hmark : ∀ j,j=1 ∨ j=2 → w.isDwellPoint[j]?≠some true := by
    intro j hj hmark
    have hj' : j+1 < w.wpList.length := by
      rw [hlist]
      rcases hj with rfl|rfl <;> decide
    rcases (dwell_iff planePlatform hw ⟨0,0,0⟩ hj').mp hmark with hasked|⟨_,hin,hout,_⟩
    · exact hasked ⟨rfl,List.not_mem_nil⟩
    · rw [hlist] at hin hout
      rcases hj with rfl|rfl
      · exact hshort2 hout
      · exact hshort2 hin
  rw [hlist]
  intro hstops
  refine not_straightAt_of_back (i := 1) ⟨le_refl 1,hlong1,fun m hm hm' => by omega⟩
    ⟨by omega,Nat.lt_succ_self 3,hlong3,fun m hm hm' => ?_⟩ hback
    (hstops 1 (by decide) fun j hj hij => hmark j ?_)
  · obtain rfl : m=2 := by omega
    exact hshort2
  · have hj' : j < 4 := hj
    by_contra hne
    rcases Nat.lt_or_ge j 1 with hlt|hge
    · exact hij 1 (by omega) (by omega) hlong1
    · exact hij 3 (by omega) (by omega) hlong3

/-- Neither the turn at the first waypoint nor the turn at a repeated one is marked. -/
theorem turningBack_unmarked :
    (∃ w,acceptWaypoint planePlatform atOrigin false false (axisMission [0,10,0])=
        .ok (axisMission [10,0]) ∧
      missionEntry planePlatform (axisMission [10,0])=.fly w ∧
      ¬StopsAtSharpTurns ⟨0,0,0⟩ w.wpList w.isDwellPoint) ∧
    ∃ w,acceptWaypoint planePlatform atOrigin false false (axisMission [0,10,20,20,10])=
        .ok (axisMission [10,20,20,10]) ∧
      missionEntry planePlatform (axisMission [10,20,20,10])=.fly w ∧
      ¬StopsAtSharpTurns ⟨0,0,0⟩ w.wpList w.isDwellPoint := by
  constructor
  · exact ⟨_,axisMission_accepted 0 (by simp),rfl,firstTurn_unmarked rfl⟩
  · exact ⟨_,axisMission_accepted 0 (by simp),rfl,repeatedTurn_unmarked rfl⟩

end Dankong.Flight

import Mathlib.Algebra.Group.Prod
import Mathlib.Tactic.FieldSimp
import Mathlib.Tactic.Linarith
import Dankong.WaypointRequest

/-!
# Geographic points in the local frame

`get_relevant_enu`, `gps_to_enu` and `enu_to_gps`. The projection library is a
parameter: what it is documented to do is stated as a structure. The way to the
local frame fixes the zone of the reference for the target but takes the northing
of the target's own hemisphere; the way back uses the hemisphere of the reference.
-/

namespace Dankong.Gps

/-- What `UTMUPS::Forward` returns. -/
structure Projected (R : Type*) where
  /-- Zone; zero stands for the polar projection. -/
  zone : ℤ
  /-- Whether the northing is counted for the northern hemisphere. -/
  northp : Bool
  /-- Easting. -/
  x : R
  /-- Northing. -/
  y : R
  deriving DecidableEq, Repr

/-- `GeographicLib::UTMUPS`; an error stands for the exception of a point out of range. -/
structure UTMUPS (R : Type*) where
  /-- `Forward`: latitude, longitude and the zone to use, if it is fixed. -/
  forward : R → R → Option ℤ → Except String (Projected R)
  /-- `Reverse`: zone, hemisphere, easting and northing. -/
  reverse : ℤ → Bool → R → R → Except String (R×R)

variable {R : Type*} [Field R]

/-- `get_relevant_enu`; points are longitude, latitude and altitude. -/
def getRelevantEnu (lib : UTMUPS R) (droneLonLatAlt targetLonLatAlt : Vec3 R) :
    Except String (Vec3 R) := do
  let drone ← lib.forward droneLonLatAlt.y droneLonLatAlt.x none
  let target ← lib.forward targetLonLatAlt.y targetLonLatAlt.x (some drone.zone)
  return ⟨target.x-drone.x,target.y-drone.y,targetLonLatAlt.z-droneLonLatAlt.z⟩

/-- `gps_to_enu`. -/
def gpsToEnu (lib : UTMUPS R) (curLonLatAlt curPosEnu lonLatAlt : Vec3 R) :
    Except String (Vec3 R) := do
  let diff ← getRelevantEnu lib curLonLatAlt lonLatAlt
  return diff.add curPosEnu

/-- `enu_to_gps`. -/
def enuToGps (lib : UTMUPS R) (curLonLatAlt curPosEnu enu : Vec3 R) : Except String (Vec3 R) := do
  let drone ← lib.forward curLonLatAlt.y curLonLatAlt.x none
  let target ← lib.reverse drone.zone drone.northp (drone.x+enu.x-curPosEnu.x)
    (drone.y+enu.y-curPosEnu.y)
  return ⟨target.2,target.1,curLonLatAlt.z+enu.z-curPosEnu.z⟩

/-- The offset that missions take from a platform, as the library gives it. -/
def utmOffset (lib : UTMUPS R) (lonLatAlt target : Vec3 R) : Except String (R×R) :=
  (getRelevantEnu lib lonLatAlt target).map fun diff => (diff.x,diff.y)

/-- What the library is documented to do: the zone is the one that was fixed, the
hemisphere is chosen by the sign of the latitude, coordinates are those of the point
in the grid of the zone and the hemisphere, the grids of the two hemispheres give a
point different coordinates, and the projection is inverted by the same grid. -/
structure UTMUPS.Documented [LinearOrder R] (lib : UTMUPS R) (grid : ℤ → Bool → R → R → R×R) :
    Prop where
  fixedZone : ∀ lat lon zone p,lib.forward lat lon (some zone)=.ok p → p.zone=zone
  hemisphere : ∀ lat lon zone p,lib.forward lat lon zone=.ok p → (p.northp=true ↔ 0 ≤ lat)
  onGrid : ∀ lat lon zone p,lib.forward lat lon zone=.ok p → grid p.zone p.northp lat lon=(p.x,p.y)
  gridsDiffer : ∀ lat lon zone p,lib.forward lat lon zone=.ok p →
    grid p.zone (!p.northp) lat lon≠(p.x,p.y)
  inverse : ∀ lat lon zone p,lib.forward lat lon zone=.ok p →
    lib.reverse p.zone p.northp p.x p.y=.ok (lat,lon)

/-- The way back leads to the target, and the offset is the distance of the two
points in the grid of the reference. -/
structure Exact (lib : UTMUPS R) (grid : ℤ → Bool → R → R → R×R)
    (curLonLatAlt curPosEnu lonLatAlt point : Vec3 R) : Prop where
  back : enuToGps lib curLonLatAlt curPosEnu point=.ok lonLatAlt
  offset : ∀ drone,lib.forward curLonLatAlt.y curLonLatAlt.x none=.ok drone →
    (point.x-curPosEnu.x,point.y-curPosEnu.y)=
      grid drone.zone drone.northp lonLatAlt.y lonLatAlt.x-
        grid drone.zone drone.northp curLonLatAlt.y curLonLatAlt.x

/-- A successful conversion has projected both points. -/
theorem gpsToEnu_eq_ok {lib : UTMUPS R} {cur pos target point : Vec3 R}
    (h : gpsToEnu lib cur pos target=.ok point) :
    ∃ d t,lib.forward cur.y cur.x none=.ok d ∧
      lib.forward target.y target.x (some d.zone)=.ok t ∧
      point=⟨t.x-d.x+pos.x,t.y-d.y+pos.y,target.z-cur.z+pos.z⟩ := by
  rw [gpsToEnu,getRelevantEnu] at h
  cases hd : lib.forward cur.y cur.x none with
  | error e =>
    rw [hd] at h
    cases h
  | ok d =>
    cases ht : lib.forward target.y target.x (some d.zone) with
    | error e =>
      rw [hd] at h
      simp only [bind,Except.bind,ht] at h
      cases h
    | ok t =>
      rw [hd] at h
      simp only [bind,Except.bind,ht,pure,Except.pure,Except.ok.injEq] at h
      exact ⟨d,t,rfl,ht,h.symm⟩

/-- Missions convert points as the library does. -/
theorem gpsToEnu_platform (lib : UTMUPS R) (pf : Flight.Platform R) (cur pos target : Vec3 R) :
    Flight.gpsToEnu { pf with utmOffset := utmOffset lib } cur pos target=
      gpsToEnu lib cur pos target := by
  rw [Flight.gpsToEnu,gpsToEnu]
  dsimp only [utmOffset,getRelevantEnu]
  cases lib.forward cur.y cur.x none with
  | error e => rfl
  | ok d => cases ht : lib.forward target.y target.x (some d.zone) with
    | error e =>
      simp only [bind,Except.bind,ht]
      rfl
    | ok t =>
      simp only [bind,Except.bind,ht]
      rfl

variable [LinearOrder R] {lib : UTMUPS R} {grid : ℤ → Bool → R → R → R×R}
  {cur pos target point : Vec3 R} {d t : Projected R}

/-- The offset of a converted point is that of the two projections. -/
theorem offset_iff (hlib : lib.Documented grid) (hd : lib.forward cur.y cur.x none=.ok d)
    (ht : lib.forward target.y target.x (some d.zone)=.ok t) :
    (t.x-d.x,t.y-d.y)=grid d.zone d.northp target.y target.x-grid d.zone d.northp cur.y cur.x ↔
      d.northp=t.northp := by
  have hcur := hlib.onGrid _ _ _ _ hd
  have htarget := hlib.onGrid _ _ _ _ ht
  have hzone := hlib.fixedZone _ _ _ _ ht
  rw [hzone] at htarget
  rw [hcur,←Prod.mk_sub_mk]
  constructor
  · intro hoffset
    have hsame := sub_left_inj.mp hoffset
    by_contra hne
    have hother : d.northp= !t.northp := Bool.eq_not_of_ne hne
    have hdiffer := hlib.gridsDiffer _ _ _ _ ht
    rw [hzone,←hother] at hdiffer
    exact hdiffer hsame.symm
  · intro hsame
    rw [hsame,htarget]

/-- Points of one hemisphere are found again. -/
theorem back_of_northp (hlib : lib.Documented grid) (hd : lib.forward cur.y cur.x none=.ok d)
    (ht : lib.forward target.y target.x (some d.zone)=.ok t) (hsame : d.northp=t.northp) :
    enuToGps lib cur pos ⟨t.x-d.x+pos.x,t.y-d.y+pos.y,target.z-cur.z+pos.z⟩=.ok target := by
  have hback := hlib.inverse _ _ _ _ ht
  rw [hlib.fixedZone _ _ _ _ ht,←hsame] at hback
  have hx : d.x+(t.x-d.x+pos.x)-pos.x=t.x := by ring
  have hy : d.y+(t.y-d.y+pos.y)-pos.y=t.y := by ring
  have hz : cur.z+(target.z-cur.z+pos.z)-pos.z=target.z := by ring
  rw [enuToGps,hd]
  simp only [bind,Except.bind,hx,hy,hz,hback]
  rfl

/-- For every reference and target that are converted, the conversions are inverse and
the offset is exact exactly if both points lie on the same side of the equator. -/
theorem exact_iff (hlib : lib.Documented grid) (hpoint : gpsToEnu lib cur pos target=.ok point) :
    Exact lib grid cur pos target point ↔ (0 ≤ cur.y ↔ 0 ≤ target.y) := by
  obtain ⟨d,t,hd,ht,rfl⟩ := gpsToEnu_eq_ok hpoint
  have hsides : (0 ≤ cur.y ↔ 0 ≤ target.y) ↔ d.northp=t.northp := by
    rw [←hlib.hemisphere _ _ _ _ hd,←hlib.hemisphere _ _ _ _ ht]
    exact Bool.eq_iff_iff.symm
  rw [hsides]
  constructor
  · intro hexact
    have hoffset := hexact.offset d hd
    simp only [add_sub_cancel_right] at hoffset
    exact (offset_iff hlib hd ht).mp hoffset
  · intro hsame
    refine ⟨back_of_northp hlib hd ht hsame,fun d' hd' => ?_⟩
    obtain rfl := Except.ok.inj (hd.symm.trans hd')
    simp only [add_sub_cancel_right]
    exact (offset_iff hlib hd ht).mpr hsame

/-- Coordinates in zone 31 where its central meridian crosses the equator, to first
order, with the false northing of a hemisphere. -/
def gridZone31 (_zone : ℤ) (northp : Bool) (lat lon : ℚ) : ℚ×ℚ :=
  (500000+111275*(lon-3),(if northp=true then 0 else 10000000)+110530*lat)

/-- The projection there: points that are more than a degree away are not taken, and
northings are accepted within the limits of a hemisphere. -/
def zone31 : UTMUPS ℚ where
  forward lat lon setzone :=
    if |lat|≤1 ∧ |lon-3|≤1 ∧ setzone.getD 31=31 then
      .ok ⟨31,decide (0≤lat),(gridZone31 31 (decide (0≤lat)) lat lon).1,
        (gridZone31 31 (decide (0≤lat)) lat lon).2⟩
    else .error "out of range"
  reverse zone northp x y :=
    if zone=31 ∧ (northp=true → -9000000≤y ∧ y≤9600000) ∧ (northp=false → 900000≤y) then
      .ok ((y-(if northp=true then 0 else 10000000))/110530,(x-500000)/111275+3)
    else .error "out of range"

/-- What a successful projection has checked. -/
theorem zone31_forward {lat lon : ℚ} {zone : Option ℤ} {p : Projected ℚ}
    (h : zone31.forward lat lon zone=.ok p) :
    (|lat| ≤ 1 ∧ zone.getD 31=31) ∧
      p=⟨31,decide (0≤lat),(gridZone31 31 (decide (0≤lat)) lat lon).1,
        (gridZone31 31 (decide (0≤lat)) lat lon).2⟩ := by
  dsimp only [zone31] at h
  split_ifs at h with hnear
  exact ⟨⟨hnear.1,hnear.2.2⟩,(Except.ok.inj h).symm⟩

/-- It does what the library is documented to do. -/
theorem zone31_documented : zone31.Documented gridZone31 := by
  constructor
  case fixedZone =>
    intro lat lon zone p h
    obtain ⟨⟨_,hzone⟩,rfl⟩ := zone31_forward h
    exact hzone.symm
  case hemisphere =>
    intro lat lon zone p h
    obtain ⟨_,rfl⟩ := zone31_forward h
    exact decide_eq_true_iff
  case onGrid =>
    intro lat lon zone p h
    obtain ⟨_,rfl⟩ := zone31_forward h
    rfl
  case gridsDiffer =>
    intro lat lon zone p h heq
    obtain ⟨_,rfl⟩ := zone31_forward h
    have hnorthing := congrArg Prod.snd heq
    by_cases hlat : 0 ≤ lat
    · simp [gridZone31,hlat] at hnorthing
    · simp [gridZone31,hlat] at hnorthing
  case inverse =>
    intro lat lon zone p h
    obtain ⟨⟨hlat,_⟩,rfl⟩ := zone31_forward h
    obtain ⟨hlow,hhigh⟩ := abs_le.mp hlat
    have hlon : (500000+111275*(lon-3)-500000)/111275+3=lon := by ring
    by_cases hside : 0 ≤ lat
    · have hback : (0+110530*lat-0)/110530=lat := by ring
      simp only [zone31,gridZone31,hside,decide_true,if_true]
      rw [if_pos ⟨trivial,fun _ => ⟨by linarith,by linarith⟩,
        fun hno => absurd hno Bool.false_ne_true.symm⟩,hback,hlon]
    · have hback : (10000000+110530*lat-10000000)/110530=lat := by ring
      simp only [zone31,gridZone31,hside,decide_false,Bool.false_eq_true,if_false]
      rw [if_pos ⟨trivial,False.elim,fun _ => by linarith⟩,hback,hlon]

/-- A vehicle on the equator and a target to the north of it. -/
theorem northOfEquator_exact_iff :
    Exact zone31 gridZone31 ⟨3,0,10⟩ ⟨1,2,3⟩ ⟨3,1/1000,20⟩ ⟨1,2+11053/100,13⟩ ↔
      ((0 : ℚ) ≤ 0 ↔ (0 : ℚ) ≤ 1/1000) :=
  have hpoint : gpsToEnu zone31 ⟨3,0,10⟩ ⟨1,2,3⟩ ⟨3,1/1000,20⟩=.ok ⟨1,2+11053/100,13⟩ := by
    decide +kernel
  exact_iff zone31_documented hpoint

/-- A target just across the equator becomes a point ten thousand kilometres to the
north, and from there the way back fails. -/
theorem acrossEquator_lost :
    gpsToEnu zone31 ⟨3,1/1000,10⟩ ⟨0,0,10⟩ ⟨3,-1/1000,10⟩=.ok ⟨0,10000000-22106/100,10⟩ ∧
      ¬Exact zone31 gridZone31 ⟨3,1/1000,10⟩ ⟨0,0,10⟩ ⟨3,-1/1000,10⟩
        ⟨0,10000000-22106/100,10⟩ := by
  refine ⟨by decide +kernel,fun hexact => ?_⟩
  have hlost : enuToGps zone31 ⟨3,1/1000,10⟩ ⟨0,0,10⟩ ⟨0,10000000-22106/100,10⟩=
      .error "out of range" := by decide +kernel
  have hback := hexact.back
  rw [hlost] at hback
  cases hback

end Dankong.Gps

import Dankong.LandingTrajectory
import Dankong.Runs
import Dankong.SlidingWindow
import Dankong.Streaks

/-!
# Is the target moving?

`TargetTracker` keeps the last measured positions of the target. A stationary target
starts to move with the third frame in a row that is far from the centroid of the
earlier ones in the window; a moving one comes to rest when the recent frames keep
close together.
-/

namespace Dankong.Pland

open StateUtils Runs SlidingWindow Streaks

/-- `TargetState`. -/
inductive TargetState
  | stationary
  | moving
  deriving DecidableEq

/-- `TargetTracker`, as its constructor and `reset` leave it by default. -/
structure TargetTracker where
  /-- `window_size_`. -/
  windowSize : ℤ
  /-- `threshold_`. -/
  threshold : ℝ
  /-- `state_`. -/
  state : TargetState := .stationary
  /-- `history_`, oldest frame first. -/
  history : List (Vec2 ℝ) := []
  /-- `move_counter_`. -/
  moveCounter : ℕ := 0

/-- The window size as the comparison with the size of the history reads it: converted
to an unsigned number of 64 bits. -/
def windowCapacity (windowSize : ℤ) : ℕ := (windowSize % 2^64).toNat

noncomputable section

/-- Mean position of frames. -/
def centroid (frames : List (Vec2 ℝ)) : Vec2 ℝ :=
  let total := frames.foldl Vec2.add .zero
  ⟨total.x/frames.length,total.y/frames.length⟩

namespace TargetTracker

/-- The part of `update` for a stationary target. -/
def judgeStart (pos : Vec2 ℝ) (t : TargetTracker) : TargetTracker :=
  let count := t.history.length-1
  let distToCentroid := norm2 (pos.sub (centroid (t.history.take count)))
  if t.threshold*1.2<distToCentroid then
    if 3 ≤ t.moveCounter+1 then { t with state := .moving, moveCounter := 0 }
    else { t with moveCounter := t.moveCounter+1 }
  else { t with moveCounter := 0 }

/-- The part of `update` for a moving target. -/
def judgeStop (t : TargetTracker) : TargetTracker :=
  let checkLen := min 15 t.history.length
  let recent := t.history.drop (t.history.length-checkLen)
  let back := t.history.getLastD .zero
  let minX := recent.foldl (fun m f => min m f.x) back.x
  let maxX := recent.foldl (fun m f => max m f.x) back.x
  let minY := recent.foldl (fun m f => min m f.y) back.y
  let maxY := recent.foldl (fun m f => max m f.y) back.y
  let spreadDist := hypot (maxX-minX) (maxY-minY)
  if spreadDist<t.threshold*0.8 then { t with state := .stationary, moveCounter := 0 } else t

/-- `update`: the state returned, and the new tracker. -/
def update (pos : Vec2 ℝ) (t : TargetTracker) : TargetState×TargetTracker :=
  let held := { t with history := push (windowCapacity t.windowSize) t.history pos }
  let next :=
    if held.history.length<5 then held
    else if held.state=.stationary then held.judgeStart pos
    else held.judgeStop
  (next.state,next)

/-- The tracker after a frame. -/
def observe (t : TargetTracker) (pos : Vec2 ℝ) : TargetTracker := (t.update pos).2

/-- In a run of frames `update` never returns MOVING. -/
def NeverMoving (t : TargetTracker) (frames : List (Vec2 ℝ)) : Prop :=
  Guarded observe (fun s pos => (s.update pos).1≠.moving) t frames

end TargetTracker

/-- A frame is far from the centroid of the earlier ones in the window, of which there
are enough to judge. -/
def Far (capacity : ℕ) (threshold : ℝ) (earlier : List (Vec2 ℝ)) (pos : Vec2 ℝ) : Prop :=
  4 ≤ (lastOf (capacity-1) earlier).length ∧
    threshold*1.2<norm2 (pos.sub (centroid (lastOf (capacity-1) earlier)))

/-- The frame at an index is far. -/
def FarAt (capacity : ℕ) (threshold : ℝ) (frames : List (Vec2 ℝ)) (i : ℕ) : Prop :=
  ∃ pos,frames[i]?=some pos ∧ Far capacity threshold (frames.take i) pos

/-- Three frames in a row are far from the index on. -/
def ThreeFar (capacity : ℕ) (r : ℝ) (frames : List (Vec2 ℝ)) (i : ℕ) : Prop :=
  FarAt capacity r frames i ∧ FarAt capacity r frames (i+1) ∧ FarAt capacity r frames (i+2)

namespace TargetTracker

/-- A tracker that has judged the target stationary so far. -/
structure Watching (w : ℤ) (r : ℝ) (frames : List (Vec2 ℝ)) (n : ℕ) (t : TargetTracker) :
    Prop where
  windowSize : t.windowSize=w
  threshold : t.threshold=r
  state : t.state=.stationary
  /-- The history is the window of the frames so far. -/
  history : t.history=lastOf (windowCapacity w) (frames.take n)
  /-- The counter counts the far frames in a row, and has not fired. -/
  streak : Streak (FarAt (windowCapacity w) r frames) n t.moveCounter
  few : t.moveCounter<3

section

variable {w : ℤ} {r : ℝ} {frames : List (Vec2 ℝ)} {n : ℕ} {t : TargetTracker} {pos : Vec2 ℝ}

/-- The frames before the newest one in the window. -/
theorem take_lastOf_concat (capacity : ℕ) (earlier : List (Vec2 ℝ)) (pos : Vec2 ℝ) :
    (lastOf capacity (earlier++[pos])).take ((lastOf capacity (earlier++[pos])).length-1)=
      lastOf (capacity-1) earlier := by
  cases capacity with
  | zero =>
    have hnone : lastOf 0 (earlier++[pos])=[] := List.drop_length
    have hnone' : lastOf (0-1) earlier=[] := List.drop_length
    rw [hnone,hnone',List.take_nil]
  | succ c =>
    have hlast : lastOf (c+1) [pos]=[pos] := lastOf_of_le (by simp)
    rw [lastOf_append,hlast,List.length_append,List.length_singleton,Nat.add_sub_cancel,
      Nat.add_sub_cancel,List.take_left]

/-- Whether the frame at an index is far is judged by the frames up to it. -/
theorem farAt_iff (hpos : frames[n]?=some pos) (capacity : ℕ) (r : ℝ) :
    FarAt capacity r frames n ↔ Far capacity r (frames.take n) pos := by
  constructor
  · intro hfar
    obtain ⟨pos',hpos',hfar⟩ := hfar
    rwa [Option.some.inj (hpos.symm.trans hpos')]
  · intro hfar
    exact ⟨pos,hpos,hfar⟩

/-- A far frame has four frames before it. -/
theorem farAt_enough {capacity : ℕ} (h : FarAt capacity r frames n) : 4 ≤ min n (capacity-1) := by
  obtain ⟨pos,hpos,henough,_⟩ := h
  rw [length_lastOf,List.length_take] at henough
  omega

/-- The tracker with the window of the frames up to the new one. -/
def held (w : ℤ) (frames : List (Vec2 ℝ)) (n : ℕ) (pos : Vec2 ℝ) (t : TargetTracker) :
    TargetTracker :=
  { t with history := lastOf (windowCapacity w) (frames.take n++[pos]) }

/-- The window is judged from the fifth frame on. -/
theorem held_short_iff (w : ℤ) (frames : List (Vec2 ℝ)) (n : ℕ) (pos : Vec2 ℝ) (t : TargetTracker) :
    (t.held w frames n pos).history.length<5 ↔
      ¬4 ≤ (lastOf (windowCapacity w-1) (frames.take n)).length := by
  dsimp only [held]
  rw [length_lastOf,length_lastOf,List.length_append,List.length_singleton]
  omega

/-- While it watches, the tracker judges each frame by the held window. -/
theorem Watching.update_eq (h : Watching w r frames n t) (pos : Vec2 ℝ) :
    t.update pos=
      let next :=
        if (t.held w frames n pos).history.length<5 then t.held w frames n pos
        else (t.held w frames n pos).judgeStart pos
      (next.state,next) := by
  have hheld : { t with history := push (windowCapacity t.windowSize) t.history pos }=
      t.held w frames n pos := by
    rw [held,h.windowSize,h.history,push_lastOf]
  have hstate : (t.held w frames n pos).state=.stationary := h.state
  rw [update,hheld,if_pos hstate]

/-- The start is judged by the distance to the centroid of the earlier frames. -/
theorem Watching.away_iff (h : Watching w r frames n t) (pos : Vec2 ℝ) :
    (t.held w frames n pos).threshold*1.2<norm2 (pos.sub (centroid
        ((t.held w frames n pos).history.take ((t.held w frames n pos).history.length-1)))) ↔
      r*1.2<norm2 (pos.sub (centroid (lastOf (windowCapacity w-1) (frames.take n)))) := by
  have hcentroid := congrArg centroid (take_lastOf_concat (windowCapacity w) (frames.take n) pos)
  have hthreshold : (t.held w frames n pos).threshold=r := h.threshold
  rw [hthreshold]
  exact iff_of_eq (congrArg (fun c => r*1.2<norm2 (pos.sub c)) hcentroid)

/-- Without enough frames the counter is still zero. -/
theorem Watching.moveCounter_eq_zero (h : Watching w r frames n t) (hn : n≤frames.length)
    (hshort : ¬4 ≤ (lastOf (windowCapacity w-1) (frames.take n)).length) : t.moveCounter=0 := by
  rw [length_lastOf,List.length_take] at hshort
  by_contra hcount
  obtain ⟨hone,hall⟩ := (h.streak.le_iff 1).mp (Nat.one_le_iff_ne_zero.mpr hcount)
  have henough := farAt_enough (hall (n-1) (by omega) (by omega))
  omega

/-- A frame that is not far leaves the counter at zero. -/
theorem Watching.update_near (h : Watching w r frames n t) (hpos : frames[n]?=some pos)
    (hnear : ¬Far (windowCapacity w) r (frames.take n) pos) :
    t.update pos=(.stationary,{ t.held w frames n pos with moveCounter := 0 }) := by
  have hstate : (t.held w frames n pos).state=.stationary := h.state
  have hn : n≤frames.length := by
    have hlt := (List.getElem?_eq_some_iff.mp hpos).1
    omega
  rw [h.update_eq]
  dsimp only
  by_cases hshort : (t.held w frames n pos).history.length<5
  · have hzero := h.moveCounter_eq_zero hn ((held_short_iff w frames n pos t).mp hshort)
    have hsame : t.held w frames n pos={ t.held w frames n pos with moveCounter := 0 } := by
      rw [←hzero]
      rfl
    rw [if_pos hshort]
    exact Prod.ext hstate hsame
  · have henough := not_not.mp (fun hn => hshort ((held_short_iff w frames n pos t).mpr hn))
    have hreset : (t.held w frames n pos).judgeStart pos=
        { t.held w frames n pos with moveCounter := 0 } :=
      if_neg (fun haway => hnear ⟨henough,(h.away_iff pos).mp haway⟩)
    rw [if_neg hshort,hreset]
    exact congrArg (fun state => (state,_)) hstate

/-- A far frame is counted, and the third in a row fires. -/
theorem Watching.update_far (h : Watching w r frames n t)
    (hfar : Far (windowCapacity w) r (frames.take n) pos) :
    t.update pos=
      if 3 ≤ t.moveCounter+1 then
        (.moving,{ t.held w frames n pos with state := .moving, moveCounter := 0 })
      else (.stationary,{ t.held w frames n pos with moveCounter := t.moveCounter+1 }) := by
  have hstate : (t.held w frames n pos).state=.stationary := h.state
  have hlong : ¬(t.held w frames n pos).history.length<5 :=
    fun hshort => (held_short_iff w frames n pos t).mp hshort hfar.1
  have hcounted : (t.held w frames n pos).judgeStart pos=
      if 3 ≤ t.moveCounter+1 then
        { t.held w frames n pos with state := .moving, moveCounter := 0 }
      else { t.held w frames n pos with moveCounter := t.moveCounter+1 } :=
    if_pos ((h.away_iff pos).mpr hfar.2)
  rw [h.update_eq]
  dsimp only
  rw [if_neg hlong,hcounted]
  by_cases hthird : 3 ≤ t.moveCounter+1
  · rw [if_pos hthird,if_pos hthird]
  · rw [if_neg hthird,if_neg hthird]
    exact congrArg (fun state => (state,_)) hstate

/-- The frames held are those up to the next index. -/
theorem Watching.next {c : ℕ} (h : Watching w r frames n t) (hpos : frames[n]?=some pos)
    (hstreak : Streak (FarAt (windowCapacity w) r frames) (n+1) c) (hfew : c<3) :
    Watching w r frames (n+1) { t.held w frames n pos with moveCounter := c } where
  windowSize := h.windowSize
  threshold := h.threshold
  state := h.state
  history := by
    rw [List.take_add_one,hpos]
    rfl
  streak := hstreak
  few := hfew

/-- A tracker that watches goes on watching, but for the third far frame in a row. -/
theorem Watching.step (h : Watching w r frames n t) (hpos : frames[n]?=some pos) :
    ((t.update pos).1≠.moving ↔ ¬(FarAt (windowCapacity w) r frames n ∧ 2 ≤ t.moveCounter)) ∧
      ((t.update pos).1≠.moving → Watching w r frames (n+1) (t.observe pos)) := by
  by_cases hfar : FarAt (windowCapacity w) r frames n
  · have hupdate := h.update_far ((farAt_iff hpos _ _).mp hfar)
    rw [observe,hupdate]
    by_cases hthird : 3 ≤ t.moveCounter+1
    · have htwo : 2 ≤ t.moveCounter := by omega
      rw [if_pos hthird]
      constructor
      · exact ⟨fun hne => absurd rfl hne,fun hnot => absurd ⟨hfar,htwo⟩ hnot⟩
      · intro hne
        exact absurd rfl hne
    · rw [if_neg hthird]
      constructor
      · constructor
        · intro _ hboth
          omega
        · intro _
          exact TargetState.noConfusion
      · intro _
        exact h.next hpos (h.streak.succ hfar) (by omega)
  · have hupdate := h.update_near hpos (fun hf => hfar ((farAt_iff hpos _ _).mpr hf))
    rw [observe,hupdate]
    constructor
    · constructor
      · intro _ hboth
        exact hfar hboth.1
      · intro _
        exact TargetState.noConfusion
    · intro _
      exact h.next hpos (streak_break hfar) (by omega)

/-- From a watching tracker on, no frame sets the target moving unless it is the third far
one in a row. -/
theorem Watching.neverMoving_iff (rest : List (Vec2 ℝ)) :
    ∀ {before : List (Vec2 ℝ)} {t : TargetTracker},frames=before++rest →
      Watching w r frames before.length t →
      (t.NeverMoving rest ↔
        ∀ i,before.length≤ i+2 → ¬ThreeFar (windowCapacity w) r frames i) := by
  induction rest with
  | nil =>
    intro before t hframes h
    constructor
    · intro _ i hi hthree
      obtain ⟨pos,hpos,_⟩ := hthree.2.2
      have hlt := (List.getElem?_eq_some_iff.mp hpos).1
      rw [hframes,List.append_nil] at hlt
      omega
    · intro _
      exact guarded_nil t
  | cons pos rest ih =>
    intro before t hframes h
    have hpos : frames[before.length]?=some pos := by
      rw [hframes,List.getElem?_append_right le_rfl,Nat.sub_self]
      rfl
    have hframes' : frames=(before++[pos])++rest := by
      rw [hframes,List.append_assoc]
      rfl
    have hlength : (before++[pos]).length=before.length+1 := by
      rw [List.length_append,List.length_singleton]
    obtain ⟨hfires,hnext⟩ := h.step hpos
    have hthird := h.streak.third_iff
    constructor
    · intro hnever i hi hthree
      obtain ⟨hstay,hnever'⟩ := (guarded_cons t pos rest).mp hnever
      have hwatch := hnext hstay
      rw [←hlength] at hwatch
      by_cases hlast : before.length=i+2
      · exact hfires.mp hstay (hthird.mpr ⟨i,hlast,hthree⟩)
      · exact (ih hframes' hwatch).mp hnever' i (by omega) hthree
    · intro hall
      have hstay : (t.update pos).1≠.moving := by
        apply hfires.mpr
        intro hboth
        obtain ⟨i,hi,hthree⟩ := hthird.mp hboth
        exact hall i hi.le hthree
      have hwatch := hnext hstay
      rw [←hlength] at hwatch
      have hnever' := (ih hframes' hwatch).mpr (fun i hi => hall i (by omega))
      exact (guarded_cons t pos rest).mpr ⟨hstay,hnever'⟩

/-- A new tracker watches. -/
theorem watching_new (w : ℤ) (r : ℝ) (frames : List (Vec2 ℝ)) :
    Watching w r frames 0 { windowSize := w, threshold := r } where
  windowSize := rfl
  threshold := rfl
  state := rfl
  history := List.drop_nil.symm
  streak := streak_zero (fun i hi => absurd hi (Nat.succ_ne_zero i))
  few := Nat.zero_lt_succ 2

/-- A new tracker sets the target moving with the third far frame in a row. -/
theorem neverMoving_new_iff (w : ℤ) (r : ℝ) (frames : List (Vec2 ℝ)) :
    NeverMoving { windowSize := w, threshold := r } frames ↔
      ∀ i,¬ThreeFar (windowCapacity w) r frames i := by
  have hiff := Watching.neverMoving_iff frames (List.nil_append frames).symm
    (watching_new w r frames)
  rw [hiff]
  exact ⟨fun h i => h i (Nat.zero_le _),fun h i _ => h i⟩

end

end TargetTracker

end

end Dankong.Pland

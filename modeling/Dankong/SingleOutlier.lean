import Dankong.StationaryTarget

/-!
# A single outlier

A stationary target with one outlying measurement. Frames whose window does not hold
the outlier are never far. Those whose window does are pulled away by it, and three of
them in a row set the target moving.
-/

namespace Dankong.Pland

open SlidingWindow Runs

noncomputable section

/-- Sum of the ways from frames to a position. -/
def displacement (pos : Vec2 ℝ) (frames : List (Vec2 ℝ)) : Vec2 ℝ :=
  (frames.map pos.sub).foldl Vec2.add .zero

/-- The frames of the window before the `k`-th frame after the outlier, but for the outlier. -/
def othersBefore (capacity : ℕ) (front back : List (Vec2 ℝ)) (k : ℕ) : List (Vec2 ℝ) :=
  lastOf (capacity-2-k) front++back.take k

/-- The outlier, or a frame after it that still has it in the window, is pulled away from
the window: the ways from the earlier frames, of which there are four or more, add up to
more than 1.2 thresholds for each. Index zero is the outlier's own frame. -/
def PulledAway (capacity : ℕ) (threshold : ℝ) (front : List (Vec2 ℝ)) (outlier : Vec2 ℝ)
    (back : List (Vec2 ℝ)) : ℕ → Prop
  | 0 => 4 ≤ (lastOf (capacity-1) front).length ∧
    threshold*1.2*(lastOf (capacity-1) front).length<
      norm2 (displacement outlier (lastOf (capacity-1) front))
  | k+1 => ∃ pos,back[k]?=some pos ∧ k+1<capacity ∧
    3 ≤ (othersBefore capacity front back k).length ∧
    threshold*1.2*((othersBefore capacity front back k).length+1)<
      norm2 ((pos.sub outlier).add (displacement pos (othersBefore capacity front back k)))

/-- No three frames in a row are pulled away by the outlier. -/
def OutlierHarmless (capacity : ℕ) (threshold : ℝ) (front : List (Vec2 ℝ)) (outlier : Vec2 ℝ)
    (back : List (Vec2 ℝ)) : Prop :=
  ∀ k,¬(PulledAway capacity threshold front outlier back k ∧
    PulledAway capacity threshold front outlier back (k+1) ∧
    PulledAway capacity threshold front outlier back (k+2))

section

variable {frames : List (Vec2 ℝ)} {pos c : Vec2 ℝ} {r : ℝ}

/-- The loop that adds frames up. -/
theorem plane_foldl_add (frames : List (Vec2 ℝ)) (start : Vec2 ℝ) :
    plane (frames.foldl Vec2.add start)=plane start+(frames.map plane).sum := by
  induction frames generalizing start with
  | nil => simp
  | cons f frames ih =>
    rw [List.foldl_cons,ih,plane_add,List.map_cons,List.sum_cons,add_assoc]

/-- The displacement is a sum of differences. -/
theorem plane_displacement (pos : Vec2 ℝ) (frames : List (Vec2 ℝ)) :
    plane (displacement pos frames)=(frames.map (fun f => plane pos-plane f)).sum := by
  rw [displacement,plane_foldl_add,plane_zero,zero_add,List.map_map]
  rfl

/-- The displacement from a frame within others. -/
theorem plane_displacement_insert (pos f : Vec2 ℝ) (xs ys : List (Vec2 ℝ)) :
    plane (displacement pos (xs++f::ys))=plane ((pos.sub f).add (displacement pos (xs++ys))) := by
  rw [plane_add,plane_sub,plane_displacement,plane_displacement,List.map_append,List.map_append,
    List.map_cons,List.sum_append,List.sum_append,List.sum_cons]
  ring

/-- Differences from one number. -/
theorem sum_const_sub (z : ℂ) (zs : List ℂ) :
    (zs.map (fun w => z-w)).sum=(zs.length : ℝ)•z-zs.sum := by
  induction zs with
  | nil => simp
  | cons w zs ih =>
    rw [List.map_cons,List.sum_cons,ih,List.sum_cons,List.length_cons,Nat.cast_add,Nat.cast_one,
      add_smul,one_smul]
    ring

/-- The displacement is the way from the centroid, once for each frame. -/
theorem plane_displacement_eq (pos : Vec2 ℝ) (hframes : frames≠[]) :
    plane (displacement pos frames)=(frames.length : ℝ)•plane (pos.sub (centroid frames)) := by
  have hcount : (frames.length : ℝ)≠0 := Nat.cast_ne_zero.mpr (List.length_pos_iff.mpr hframes).ne'
  have hsum : (frames.length : ℝ)•plane (centroid frames)=(frames.map plane).sum := by
    have htotal := plane_foldl_add frames .zero
    rw [plane_zero,zero_add] at htotal
    rw [←htotal]
    apply Complex.ext
    · rw [Complex.smul_re]
      exact mul_div_cancel₀ _ hcount
    · rw [Complex.smul_im]
      exact mul_div_cancel₀ _ hcount
  have hdiff := sum_const_sub (plane pos) (frames.map plane)
  rw [List.map_map,List.length_map] at hdiff
  rw [plane_displacement,plane_sub,smul_sub,hsum]
  exact hdiff

/-- A position is far from the centroid if it is displaced that much for each frame. -/
theorem away_iff_displaced (pos : Vec2 ℝ) (r : ℝ) (hframes : frames≠[]) :
    r*1.2<norm2 (pos.sub (centroid frames)) ↔
      r*1.2*frames.length<norm2 (displacement pos frames) := by
  have hcount : (0 : ℝ)<frames.length := Nat.cast_pos.mpr (List.length_pos_iff.mpr hframes)
  have hnorm : norm2 (displacement pos frames)=
      norm2 (pos.sub (centroid frames))*frames.length := by
    rw [←norm_plane,plane_displacement_eq pos hframes,norm_smul,Real.norm_of_nonneg hcount.le,
      norm_plane,mul_comm]
  rw [hnorm]
  exact (mul_lt_mul_iff_left₀ hcount).symm

/-- Frames within one distance of a point displace a position within another one by at most
their sum each. -/
theorem norm2_displacement_le {a b : ℝ} (hpos : norm2 (pos.sub c)≤a)
    (hframes : ∀ f∈frames,norm2 (f.sub c)≤b) :
    norm2 (displacement pos frames) ≤ frames.length*(a+b) := by
  rw [←norm_plane,plane_sub] at hpos
  rw [←norm_plane,plane_displacement]
  induction frames with
  | nil => simp
  | cons f frames ih =>
    have hf : ‖plane c-plane f‖≤b := by
      have hnear := hframes f List.mem_cons_self
      rwa [←norm_plane,plane_sub,norm_sub_rev] at hnear
    have hway : ‖plane pos-plane f‖≤a+b :=
      (norm_sub_le_norm_sub_add_norm_sub _ (plane c) _).trans (add_le_add hpos hf)
    have hrest := ih (fun g hg => hframes g (List.mem_cons_of_mem f hg))
    rw [List.map_cons,List.sum_cons,List.length_cons,Nat.cast_add,Nat.cast_one,add_mul,one_mul,
      add_comm ((frames.length : ℝ)*(a+b))]
    exact (norm_add_le _ _).trans (add_le_add hway hrest)

/-- Where a point is within half the threshold of another one, the threshold is not negative. -/
theorem threshold_nonneg (hpos : norm2 (pos.sub c)≤r/2) : 0≤r := by
  have hnorm : 0 ≤ norm2 (pos.sub c) := Real.sqrt_nonneg _
  linarith

/-- Without an outlier no frame is far. -/
theorem not_far_of_near {capacity : ℕ} {earlier : List (Vec2 ℝ)} (hpos : norm2 (pos.sub c)≤r/2)
    (hnear : ∀ f∈lastOf (capacity-1) earlier,norm2 (f.sub c)≤r/2) :
    ¬Far capacity r earlier pos := by
  intro hfar
  have hframes : lastOf (capacity-1) earlier≠[] := by
    have henough := hfar.1
    exact List.ne_nil_of_length_pos (by omega)
  have hdisplaced := (away_iff_displaced pos r hframes).mp hfar.2
  have hbound := norm2_displacement_le hpos hnear
  have hr := threshold_nonneg hpos
  have hcount : (0 : ℝ) ≤ (lastOf (capacity-1) earlier).length := Nat.cast_nonneg _
  have hfactor : r/2+r/2≤r*1.2 := by linarith
  have hslack := mul_le_mul_of_nonneg_left hfactor hcount
  linarith

end

section

variable {capacity : ℕ} {r : ℝ} {front back : List (Vec2 ℝ)} {outlier c : Vec2 ℝ}

/-- The window before a frame that still has the outlier in it. -/
theorem lastOf_outlier {k : ℕ} (hk : k≤back.length) (hroom : k+1<capacity) :
    lastOf (capacity-1) (front++outlier::back.take k)=
      lastOf (capacity-2-k) front++outlier::back.take k := by
  have hlength : (outlier::back.take k).length=k+1 := by
    rw [List.length_cons,List.length_take,min_eq_left hk]
  have hwhole : lastOf (capacity-1) (outlier::back.take k)=outlier::back.take k :=
    lastOf_of_le (by omega)
  have hrest : capacity-1-(k+1)=capacity-2-k := by omega
  rw [lastOf_append,hlength,hwhole,hrest]

/-- The window before a frame that has left the outlier behind. -/
theorem lastOf_past_outlier {k : ℕ} (hk : k≤back.length) (hleft : ¬k+1<capacity) :
    lastOf (capacity-1) (front++outlier::back.take k)=lastOf (capacity-1) (back.take k) := by
  have hsplit : front++outlier::back.take k=(front++[outlier])++back.take k := by
    rw [List.append_assoc]
    rfl
  have hlength : capacity-1-(back.take k).length=0 := by
    rw [List.length_take,min_eq_left hk]
    omega
  have hnone : lastOf 0 (front++[outlier])=[] := List.drop_length
  rw [hsplit,lastOf_append,hlength,hnone,List.nil_append]

/-- The outlier's own frame. -/
theorem farAt_outlier_iff : FarAt capacity r (front++outlier::back) front.length ↔
    PulledAway capacity r front outlier back 0 := by
  have hpos : (front++outlier::back)[front.length]?=some outlier := by
    rw [List.getElem?_append_right le_rfl,Nat.sub_self]
    rfl
  have htake : (front++outlier::back).take front.length=front := List.take_left
  rw [TargetTracker.farAt_iff hpos,htake]
  constructor
  · intro hfar
    have hframes := List.ne_nil_of_length_pos (lt_of_lt_of_le (by decide) hfar.1)
    exact ⟨hfar.1,(away_iff_displaced outlier r hframes).mp hfar.2⟩
  · intro hpulled
    have hframes := List.ne_nil_of_length_pos (lt_of_lt_of_le (by decide) hpulled.1)
    exact ⟨hpulled.1,(away_iff_displaced outlier r hframes).mpr hpulled.2⟩

/-- A frame that has the outlier in the window before it. -/
theorem far_with_outlier_iff {k : ℕ} {pos : Vec2 ℝ} (hpos : back[k]?=some pos)
    (hroom : k+1<capacity) : Far capacity r (front++outlier::back.take k) pos ↔
      PulledAway capacity r front outlier back (k+1) := by
  have hk : k≤back.length := (List.getElem?_eq_some_iff.mp hpos).1.le
  have hwindow : lastOf (capacity-1) (front++outlier::back.take k)=
      lastOf (capacity-2-k) front++outlier::back.take k := lastOf_outlier hk hroom
  have hlength : (lastOf (capacity-2-k) front++outlier::back.take k).length=
      (othersBefore capacity front back k).length+1 := by
    rw [othersBefore,List.length_append,List.length_append,List.length_cons,Nat.add_assoc]
  have hframes : lastOf (capacity-2-k) front++outlier::back.take k≠[] :=
    List.ne_nil_of_length_pos (by omega)
  have hway : norm2 (displacement pos (lastOf (capacity-2-k) front++outlier::back.take k))=
      norm2 ((pos.sub outlier).add (displacement pos (othersBefore capacity front back k))) := by
    rw [←norm_plane,plane_displacement_insert,norm_plane]
    rfl
  have hfar : Far capacity r (front++outlier::back.take k) pos ↔
      3 ≤ (othersBefore capacity front back k).length ∧
        r*1.2*((othersBefore capacity front back k).length+1)<
          norm2 ((pos.sub outlier).add (displacement pos (othersBefore capacity front back k))) := by
    rw [Far,hwindow,away_iff_displaced pos r hframes,hlength,hway,Nat.cast_add,Nat.cast_one,
      Nat.succ_le_succ_iff]
  rw [hfar]
  constructor
  · intro hpulled
    exact ⟨pos,hpos,hroom,hpulled⟩
  · intro hpulled
    obtain ⟨pos',hpos',_,hpulled⟩ := hpulled
    rwa [Option.some.inj (hpos.symm.trans hpos')]

/-- As many frames as before the outlier, or a full window but for two, are always among the
others. -/
theorem le_length_othersBefore {k : ℕ} (hk : k≤back.length) (hroom : k+1<capacity) :
    min front.length (capacity-2) ≤ (othersBefore capacity front back k).length := by
  rw [othersBefore,List.length_append,length_lastOf,List.length_take]
  omega

variable (hnear : ∀ f∈front++back,norm2 (f.sub c)≤r/2)

include hnear

/-- The frames before the outlier are not far. -/
theorem not_farAt_before {i : ℕ} (hi : i<front.length) :
    ¬FarAt capacity r (front++outlier::back) i := by
  intro hfar
  obtain ⟨pos,hpos,hfar⟩ := hfar
  rw [List.getElem?_append_left hi] at hpos
  rw [List.take_append_of_le_length hi.le] at hfar
  have hpos' := hnear pos (List.mem_append_left _ (List.mem_of_getElem? hpos))
  refine not_far_of_near hpos' ?_ hfar
  intro f hf
  exact hnear f (List.mem_append_left _ (List.mem_of_mem_take (mem_of_mem_lastOf hf)))

/-- The frames from the outlier on are far where it pulls them away. -/
theorem farAt_after_iff (k : ℕ) : FarAt capacity r (front++outlier::back) (front.length+k) ↔
    PulledAway capacity r front outlier back k := by
  cases k with
  | zero => exact farAt_outlier_iff
  | succ k =>
    have hget : (front++outlier::back)[front.length+(k+1)]?=back[k]? := by
      rw [List.getElem?_append_right (Nat.le_add_right _ _),Nat.add_sub_cancel_left]
      rfl
    have htake : (front++outlier::back).take (front.length+(k+1))=front++outlier::back.take k := by
      rw [List.take_length_add_append]
      rfl
    constructor
    · intro hfar
      obtain ⟨pos,hpos,hfar⟩ := hfar
      rw [hget] at hpos
      rw [htake] at hfar
      have hk : k≤back.length := (List.getElem?_eq_some_iff.mp hpos).1.le
      by_cases hroom : k+1<capacity
      · exact (far_with_outlier_iff hpos hroom).mp hfar
      · have hpos' := hnear pos (List.mem_append_right _ (List.mem_of_getElem? hpos))
        refine absurd hfar (not_far_of_near hpos' ?_)
        intro f hf
        rw [lastOf_past_outlier hk hroom] at hf
        exact hnear f (List.mem_append_right _ (List.mem_of_mem_take (mem_of_mem_lastOf hf)))
    · intro hpulled
      have hpulled' := hpulled
      obtain ⟨pos,hpos,hroom,_⟩ := hpulled'
      refine ⟨pos,hget.trans hpos,?_⟩
      rw [htake]
      exact (far_with_outlier_iff hpos hroom).mpr hpulled

/-- Three far frames in a row are three that the outlier pulls away. -/
theorem forall_not_threeFar_iff : (∀ i,¬ThreeFar capacity r (front++outlier::back) i) ↔
    OutlierHarmless capacity r front outlier back := by
  constructor
  · intro hnone k hpulled
    apply hnone (front.length+k)
    exact ⟨(farAt_after_iff hnear k).mpr hpulled.1,(farAt_after_iff hnear (k+1)).mpr hpulled.2.1,
      (farAt_after_iff hnear (k+2)).mpr hpulled.2.2⟩
  · intro hharmless i hthree
    have hfrom : front.length≤ i := by
      by_contra hbefore
      exact not_farAt_before hnear (not_le.mp hbefore) hthree.1
    obtain ⟨k,hk⟩ := Nat.exists_eq_add_of_le hfrom
    rw [hk] at hthree
    exact hharmless k ⟨(farAt_after_iff hnear k).mp hthree.1,
      (farAt_after_iff hnear (k+1)).mp hthree.2.1,(farAt_after_iff hnear (k+2)).mp hthree.2.2⟩

/-- The others before a frame are near the point. -/
theorem othersBefore_near (capacity k : ℕ) :
    ∀ f∈othersBefore capacity front back k,norm2 (f.sub c)≤r/2 := by
  intro f hf
  rcases List.mem_append.mp hf with hfront|hback
  · exact hnear f (List.mem_append_left _ (mem_of_mem_lastOf hfront))
  · exact hnear f (List.mem_append_right _ (List.mem_of_mem_take hback))

/-- How far the outlier can pull a frame away. -/
theorem norm2_way_le {k : ℕ} {pos : Vec2 ℝ} (hpos : back[k]?=some pos) :
    norm2 ((pos.sub outlier).add (displacement pos (othersBefore capacity front back k))) ≤
      r/2+norm2 (outlier.sub c)+(othersBefore capacity front back k).length*r := by
  have hnearPos := hnear pos (List.mem_append_right _ (List.mem_of_getElem? hpos))
  have hrest := norm2_displacement_le hnearPos (othersBefore_near hnear capacity k)
  have hfirst : norm2 (pos.sub outlier) ≤ r/2+norm2 (outlier.sub c) := by
    have htriangle := norm_sub_le_norm_sub_add_norm_sub (plane pos) (plane c) (plane outlier)
    rw [←norm_plane,plane_sub] at hnearPos
    rw [←norm_plane,←norm_plane,plane_sub,plane_sub,norm_sub_rev (plane outlier)]
    exact htriangle.trans (add_le_add_left hnearPos _)
  rw [add_halves] at hrest
  rw [←norm_plane,plane_add]
  refine (norm_add_le _ _).trans ?_
  rw [norm_plane,norm_plane]
  exact add_le_add hfirst hrest

/-- An outlier is harmless if it is not too far away for the frames there are. -/
theorem outlierHarmless_of_near (hclose : norm2 (outlier.sub c) ≤
    (0.7+0.2*(max 3 (min front.length (capacity-2)) : ℕ))*r) :
    OutlierHarmless capacity r front outlier back := by
  intro k hpulled
  obtain ⟨pos,hpos,hroom,henough,hway⟩ := hpulled.2.1
  have hk : k≤back.length := (List.getElem?_eq_some_iff.mp hpos).1.le
  have hr := threshold_nonneg (hnear pos (List.mem_append_right _ (List.mem_of_getElem? hpos)))
  have hmany : max 3 (min front.length (capacity-2)) ≤
      (othersBefore capacity front back k).length :=
    max_le henough (le_length_othersBefore hk hroom)
  have hslack := mul_le_mul_of_nonneg_right (Nat.cast_le.mpr hmany : (_ : ℝ)≤_) hr
  have hpull := hway.trans_le (norm2_way_le hnear hpos)
  generalize ((max 3 (min front.length (capacity-2)) : ℕ) : ℝ)=low at hclose hslack
  generalize ((othersBefore capacity front back k).length : ℝ)=count at hpull hslack
  have hlimit : (0.7+0.2*low)*r=0.7*r+0.2*(low*r) := by ring
  have hneeded : r*1.2*(count+1)=1.2*(count*r)+1.2*r := by ring
  rw [hlimit] at hclose
  rw [hneeded] at hpull
  norm_num at hclose hpull
  linarith

/-- A target whose one outlier is not too far away is never taken to be moving. -/
theorem neverMoving_of_near {w : ℤ} (hclose : norm2 (outlier.sub c) ≤
    (0.7+0.2*(max 3 (min front.length (windowCapacity w-2)) : ℕ))*r) :
    TargetTracker.NeverMoving { windowSize := w, threshold := r } (front++outlier::back) := by
  rw [TargetTracker.neverMoving_new_iff,forall_not_threeFar_iff hnear]
  exact outlierHarmless_of_near hnear hclose

end

/-- With all other measurements within half the threshold of one point, the target is never
taken to be moving exactly if the outlier pulls no three frames in a row away. -/
theorem neverMoving_iff_outlierHarmless (windowSize : ℤ) (threshold : ℝ) (c : Vec2 ℝ)
    (front : List (Vec2 ℝ)) (outlier : Vec2 ℝ) (back : List (Vec2 ℝ))
    (hnear : ∀ f∈front++back,norm2 (f.sub c)≤ threshold/2) :
    TargetTracker.NeverMoving { windowSize := windowSize, threshold := threshold }
        (front++outlier::back) ↔
      OutlierHarmless (windowCapacity windowSize) threshold front outlier back :=
  (TargetTracker.neverMoving_new_iff windowSize threshold _).trans (forall_not_threeFar_iff hnear)

/-- Frames at the origin after a first measurement 1.5 m away. -/
def settled : List (Vec2 ℝ) := List.replicate 6 .zero

/-- They are at the origin. -/
theorem settled_near : ∀ f∈[]++settled,norm2 (f.sub .zero) ≤ 0.2/2 := by
  intro f hf
  have hzero : f=.zero := List.eq_of_mem_replicate hf
  rw [hzero,←norm_plane,plane_sub,sub_self,norm_zero]
  norm_num

/-- Their own displacement vanishes. -/
theorem displacement_origin (n : ℕ) : plane (displacement .zero (List.replicate n .zero))=0 := by
  rw [plane_displacement,List.map_replicate,List.sum_replicate,sub_self,smul_zero]

/-- Four to six frames after the outlier it still pulls the window away. -/
theorem settled_pulledAway {k : ℕ} (h₃ : 3≤k) (h₅ : k≤5) :
    PulledAway 30 0.2 [] ⟨1.5,0⟩ settled (k+1) := by
  have hothers : othersBefore 30 [] settled k=List.replicate k .zero := by
    have htake : settled.take k=List.replicate k .zero := by
      rw [settled,List.take_replicate,min_eq_left (by omega)]
    rw [othersBefore,htake,lastOf,List.drop_nil,List.nil_append]
  have hget : settled[k]?=some .zero := by
    rw [settled,List.getElem?_replicate,if_pos (by omega)]
  have hway : norm2 ((Vec2.zero.sub ⟨1.5,0⟩).add
      (displacement .zero (othersBefore 30 [] settled k)))=1.5 := by
    have hone : plane ⟨1.5,0⟩=((1.5 : ℝ) : ℂ) := rfl
    rw [hothers,←norm_plane,plane_add,displacement_origin,add_zero,plane_sub,plane_zero,zero_sub,
      norm_neg,hone,Complex.norm_of_nonneg (by norm_num)]
  have hcount : (k : ℝ)≤5 := Nat.cast_le_ofNat.mpr h₅
  refine ⟨.zero,hget,by omega,?_,?_⟩
  · rw [hothers,List.length_replicate]
    exact h₃
  · rw [hway,hothers,List.length_replicate]
    norm_num
    linarith

/-- The frames at rest after a spike. -/
theorem settled_neverMoving_iff :
    TargetTracker.NeverMoving { windowSize := 30, threshold := 0.2 } ([]++⟨1.5,0⟩::settled) ↔
      OutlierHarmless (windowCapacity 30) 0.2 [] ⟨1.5,0⟩ settled :=
  neverMoving_iff_outlierHarmless 30 0.2 .zero [] ⟨1.5,0⟩ settled settled_near

/-- With the default window and threshold a first measurement 1.5 m away sets a resting
target moving. -/
theorem settled_moves : (∀ f∈[]++settled,norm2 (f.sub .zero) ≤ 0.2/2) ∧
    ¬TargetTracker.NeverMoving { windowSize := 30, threshold := 0.2 }
      ([]++⟨1.5,0⟩::settled) := by
  constructor
  · exact settled_near
  · rw [TargetTracker.neverMoving_new_iff,forall_not_threeFar_iff settled_near]
    intro hharmless
    have hcapacity : windowCapacity 30=30 := by decide
    rw [hcapacity] at hharmless
    exact hharmless 4 ⟨settled_pulledAway le_rfl (by omega),
      settled_pulledAway (by omega) (by omega),settled_pulledAway (by omega) le_rfl⟩

end

end Dankong.Pland

import Mathlib.Algebra.Order.Field.Basic
import Mathlib.Algebra.Order.Ring.Rat
import Mathlib.Data.Fin.VecNotation
import Mathlib.Tactic.Linarith
import Mathlib.Tactic.NormNum

/-!
# Detecting a stall

`StallChecker` compares a sample with a reference sample once more than the check time
has passed since the reference, and then takes the sample as the new reference. The
relation `LastReference` says which sample of a sequence is its last reference; a stall
is reported exactly of a sample that is late enough and close to it. Sequences are kept
latest first. Doubles are elements of an ordered field.
-/

namespace Dankong.StateUtils

/-- `StallChecker`. -/
structure StallChecker (N : ℕ) (R : Type*) where
  /-- `start_time_`. -/
  startTime : R
  /-- `check_time_s_`. -/
  checkTimeS : R
  /-- `last_data_`. -/
  lastData : Fin N → R
  /-- `threshold_`. -/
  threshold : Fin N → R
  /-- `is_initialized_`. -/
  isInitialized : Bool := false

/-- The data of a call and its time. -/
structure Sample (N : ℕ) (R : Type*) where
  /-- `data`. -/
  data : Fin N → R
  /-- `now`. -/
  now : R

/-- The last reference among samples, latest first: the first sample is one, and so is
every sample taken more than the check time after the last one before it. -/
inductive LastReference {N : ℕ} {R : Type*} [Sub R] [LT R] (checkTimeS : R) :
    List (Sample N R) → Sample N R → Prop
  /-- The first sample. -/
  | first {x : Sample N R} : LastReference checkTimeS [x] x
  /-- A sample that is late enough takes the place of the last reference. -/
  | renewed {x r : Sample N R} {earlier : List (Sample N R)}
    (h : LastReference checkTimeS earlier r) (hlate : checkTimeS<x.now-r.now) :
    LastReference checkTimeS (x::earlier) x
  /-- Another one does not. -/
  | kept {x r : Sample N R} {earlier : List (Sample N R)}
    (h : LastReference checkTimeS earlier r) (hearly : ¬checkTimeS<x.now-r.now) :
    LastReference checkTimeS (x::earlier) r

variable {N : ℕ} {R : Type*} [Field R] [LinearOrder R]

namespace StallChecker

/-- Construction; `last_data_` is not initialised by the source. -/
def construct (lastData threshold : Fin N → R) (checkTimeS now : R) : StallChecker N R where
  startTime := now
  checkTimeS := checkTimeS
  lastData := lastData
  threshold := threshold

/-- `is_stall`: the verdict and the new state. -/
def isStall (s : StallChecker N R) (data : Fin N → R) (now : R) : Bool×StallChecker N R :=
  if s.isInitialized=false then
    (false,{ s with lastData := data, isInitialized := true, startTime := now })
  else
    let diff := now-s.startTime
    if s.checkTimeS<diff then
      (decide (∀ i,¬s.threshold i < |s.lastData i-data i|),{ s with lastData := data, startTime := now })
    else (false,s)

/-- The checker after samples, latest first. -/
def after (s : StallChecker N R) : List (Sample N R) → StallChecker N R
  | [] => s
  | x::earlier => ((after s earlier).isStall x.data x.now).2

/-- The verdict on a sample after earlier ones. -/
def verdict (s : StallChecker N R) (earlier : List (Sample N R)) (x : Sample N R) : Bool :=
  ((s.after earlier).isStall x.data x.now).1

end StallChecker

/-- The checker of the lifting state: heading and height, over three seconds. -/
def liftingChecker (lastData : Fin 2 → R) (now : R) : StallChecker 2 R :=
  StallChecker.construct lastData ![0.1,0.1] 3.0 now

section

variable {checkTimeS : R} {x r : Sample N R} {earlier : List (Sample N R)}

/-- Samples have one last reference. -/
theorem LastReference.unique {r' : Sample N R} (h : LastReference checkTimeS earlier r)
    (h' : LastReference checkTimeS earlier r') : r=r' := by
  induction h generalizing r' with
  | first =>
    cases h' with
    | first => rfl
    | renewed h' _ => cases h'
    | kept h' _ => cases h'
  | renewed h hlate ih =>
    cases h' with
    | first => cases h
    | renewed _ _ => rfl
    | kept h' hearly =>
      obtain rfl := ih h'
      exact absurd hlate hearly
  | kept h hearly ih =>
    cases h' with
    | first => cases h
    | renewed h' hlate =>
      obtain rfl := ih h'
      exact absurd hlate hearly
    | kept h' _ => exact ih h'

/-- Some samples have a last reference. -/
theorem exists_lastReference (checkTimeS : R) (hne : earlier≠[]) :
    ∃ r,LastReference checkTimeS earlier r := by
  induction earlier with
  | nil => exact absurd rfl hne
  | cons x earlier ih =>
    by_cases hnil : earlier=[]
    · rw [hnil]
      exact ⟨x,.first⟩
    · obtain ⟨r,hr⟩ := ih hnil
      by_cases hlate : checkTimeS<x.now-r.now
      · exact ⟨x,.renewed hr hlate⟩
      · exact ⟨r,.kept hr hlate⟩

/-- As long as no sample renews the reference, it stays where it was. -/
theorem LastReference.mem_between {between : List (Sample N R)}
    (hx : LastReference checkTimeS (x::earlier) x)
    (h : LastReference checkTimeS (between++x::earlier) r) : r∈between ∨ r=x := by
  induction between generalizing r with
  | nil => exact Or.inr (h.unique hx)
  | cons y between ih =>
    rw [List.cons_append] at h
    generalize hrest : between++x::earlier=rest at h ih
    cases h with
    | first => exact Or.inl List.mem_cons_self
    | renewed _ _ => exact Or.inl List.mem_cons_self
    | kept h _ => exact (ih h).imp_left (List.mem_cons_of_mem y)

/-- The reference that a checker holds is a sample. -/
structure Holds (s : StallChecker N R) (r : Sample N R) : Prop where
  /-- There has been a first sample. -/
  initialized : s.isInitialized=true
  /-- Its data. -/
  data : s.lastData=r.data
  /-- Its time. -/
  time : s.startTime=r.now

namespace StallChecker

variable (s : StallChecker N R)

/-- What a checker does with a sample once it holds a reference. -/
theorem isStall_of_holds {s : StallChecker N R} (h : Holds s r) (data : Fin N → R) (now : R) :
    s.isStall data now=if s.checkTimeS<now-r.now then
      (decide (∀ i,¬s.threshold i < |r.data i-data i|),{ s with lastData := data, startTime := now })
    else (false,s) := by
  rw [isStall,if_neg (by rw [h.initialized]; nofun),h.data,h.time]

/-- Thresholds and check time stay as they are. -/
theorem after_settings (earlier : List (Sample N R)) :
    (s.after earlier).threshold=s.threshold ∧ (s.after earlier).checkTimeS=s.checkTimeS := by
  induction earlier with
  | nil => exact ⟨rfl,rfl⟩
  | cons x earlier ih =>
    rw [after,isStall]
    dsimp only
    split_ifs <;> exact ih

/-- A checker holds the last reference of its samples. -/
theorem holds_after (hs : s.isInitialized=false) (h : LastReference s.checkTimeS earlier r) :
    Holds (s.after earlier) r := by
  induction h with
  | first =>
    rw [after,after,isStall,if_pos hs]
    exact ⟨rfl,rfl,rfl⟩
  | @renewed x r earlier _ hlate ih =>
    rw [←(s.after_settings earlier).2] at hlate
    rw [after,isStall_of_holds ih,if_pos hlate]
    exact ⟨ih.initialized,rfl,rfl⟩
  | @kept x r earlier _ hearly ih =>
    rw [←(s.after_settings earlier).2] at hearly
    rw [after,isStall_of_holds ih,if_neg hearly]
    exact ih

/-- A stall is reported of a sample that is late enough and close to the last reference. -/
theorem verdict_iff (hs : s.isInitialized=false) (earlier : List (Sample N R)) (x : Sample N R) :
    s.verdict earlier x=true ↔ ∃ r,LastReference s.checkTimeS earlier r ∧
      s.checkTimeS<x.now-r.now ∧ ∀ i,|r.data i-x.data i|≤ s.threshold i := by
  by_cases hnil : earlier=[]
  · subst hnil
    refine iff_of_false ?_ ?_
    · rw [verdict,after,isStall,if_pos hs]
      exact Bool.false_ne_true
    · rintro ⟨r,hr,_⟩
      cases hr
  · obtain ⟨r,hr⟩ := exists_lastReference s.checkTimeS hnil
    obtain ⟨hthreshold,htime⟩ := s.after_settings earlier
    rw [verdict,isStall_of_holds (s.holds_after hs hr),hthreshold,htime]
    constructor
    · intro h
      split_ifs at h with hlate
      exact ⟨r,hr,hlate,fun i => not_lt.mp (of_decide_eq_true h i)⟩
    · rintro ⟨r',hr',hlate,hclose⟩
      obtain rfl := hr.unique hr'
      rw [if_pos hlate]
      exact decide_eq_true fun i => not_lt.mpr (hclose i)

/-- Two verdicts are more than the check time apart. -/
theorem verdicts_apart [IsStrictOrderedRing R] (hs : s.isInitialized=false) {y : Sample N R}
    {between : List (Sample N R)}
    (htimes : (y::(between++x::earlier)).Pairwise fun later first => first.now≤later.now)
    (hx : s.verdict earlier x=true) (hy : s.verdict (between++x::earlier) y=true) :
    s.checkTimeS<y.now-x.now := by
  obtain ⟨r,hr,hlate,_⟩ := (s.verdict_iff hs earlier x).mp hx
  obtain ⟨q,hq,hlong,_⟩ := (s.verdict_iff hs _ y).mp hy
  have hle : x.now≤q.now := by
    rcases (LastReference.renewed hr hlate).mem_between hq with hmem|rfl
    · have hbetween := (List.pairwise_append.mp (List.pairwise_cons.mp htimes).2).2.2
      exact hbetween q hmem x List.mem_cons_self
    · exact le_rfl
  linarith

end StallChecker

end

/-- A constructed checker reports a stall exactly of a sample that is more than the check
time later than the last reference and within all thresholds of it. What it holds is that
reference, which every sample sequence has. With times that do not decrease two verdicts
are more than the check time apart, and a component that moved by more than its threshold
from one reference to the next one prevents the verdict. -/
theorem stall_verdict [IsStrictOrderedRing R] (lastData threshold : Fin N → R)
    (checkTimeS start : R) :
    let s := StallChecker.construct lastData threshold checkTimeS start
    (∀ earlier x,s.verdict earlier x=true ↔ ∃ r,LastReference checkTimeS earlier r ∧
      checkTimeS<x.now-r.now ∧ ∀ i,|r.data i-x.data i|≤threshold i) ∧
    (∀ earlier,earlier≠[] → ∃ r,LastReference checkTimeS earlier r ∧ Holds (s.after earlier) r) ∧
    (∀ earlier x between y,
      (y::(between++x::earlier)).Pairwise (fun later first => first.now≤later.now) →
      s.verdict earlier x=true → s.verdict (between++x::earlier) y=true →
        checkTimeS<y.now-x.now) ∧
    (∀ earlier r y i,LastReference checkTimeS earlier r → threshold i < |r.data i-y.data i| →
      s.verdict earlier y=false) := by
  intro s
  refine ⟨s.verdict_iff rfl,fun earlier hne => ?_,fun earlier x between y => ?_,?_⟩
  · obtain ⟨r,hr⟩ := exists_lastReference checkTimeS hne
    exact ⟨r,hr,s.holds_after rfl hr⟩
  · exact s.verdicts_apart rfl
  · intro earlier r y i hr hmoved
    rw [Bool.eq_false_iff]
    intro h
    obtain ⟨r',hr',_,hclose⟩ := (s.verdict_iff rfl earlier y).mp h
    obtain rfl := hr.unique hr'
    exact absurd hmoved (not_lt.mpr (hclose i))

/-- A vehicle that has climbed by one centimetre in three and a half seconds is stalled. -/
theorem lifting_stalled :
    (liftingChecker ![0,0] (0 : ℚ)).verdict [⟨![1,2],0⟩] ⟨![1,2.01],3.5⟩=true := by
  refine ((stall_verdict (R:=ℚ) ![0,0] ![0.1,0.1] 3.0 0).1 _ _).mpr ⟨_,.first,by norm_num,?_⟩
  rw [Fin.forall_fin_two]
  constructor <;> norm_num [abs_le]

end Dankong.StateUtils

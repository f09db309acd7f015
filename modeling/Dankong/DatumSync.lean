import Mathlib.Algebra.Field.Defs
import Mathlib.Algebra.Field.Rat
import Mathlib.Algebra.Order.Ring.Rat
import Mathlib.Data.List.DropRight
import Mathlib.Data.List.Forall2
import Mathlib.Data.List.ReduceOption
import Dankong.OrderedJoin
import Dankong.Vectors

/-!
# Synchronised ENU and GPS samples

`DatumSynchronizer` pairs every GPS sample with the ENU position interpolated at
its stamp. Two bounded queues are filled by two callbacks, and every push serves
the waiting GPS samples in order until one is newer than the newest ENU sample.
While neither queue overflows and the ENU stamps increase, no decision about a
GPS sample is ever revised, so the pairs do not depend on how the two callbacks
interleave.
-/

namespace Dankong.DatumSync

open OrderedJoin Runs

variable {R : Type*}

/-- `StampedENU`. -/
structure StampedENU (R : Type*) where
  /-- Stamp in seconds. -/
  time : R
  /-- Local position. -/
  position : Vec3 R

/-- `StampedGPS`. -/
structure StampedGPS (R : Type*) where
  /-- Stamp in seconds. -/
  time : R
  /-- Longitude, latitude and altitude. -/
  lonLatAlt : Vec3 R

/-- `SyncedPair`: the two positions of one moment. -/
structure SyncedPair (R : Type*) where
  /-- Stamp of the GPS sample. -/
  time : R
  /-- Interpolated local position. -/
  enu : Vec3 R
  /-- Longitude, latitude and altitude. -/
  gps : Vec3 R
  deriving DecidableEq

/-- `DatumSynchronizer`, with the default arguments of its constructor. -/
structure DatumSynchronizer (R : Type*) [Field R] where
  /-- `max_time_diff_`: largest gap that is interpolated over. -/
  maxTimeDiff : R := 0.1
  /-- `window_size_`: number of pairs kept. -/
  windowSize : ℕ := 10
  /-- `enu_buffer_`, oldest first. -/
  enuBuffer : List (StampedENU R) := []
  /-- `gps_buffer_`, oldest first. -/
  gpsBuffer : List (StampedGPS R) := []
  /-- `synced_window_`, oldest first. -/
  syncedWindow : List (SyncedPair R) := []

/-- A push at the back of a queue that keeps at most the given number of entries. -/
def pushBounded {α : Type*} (bound : ℕ) (queue : List α) (a : α) : List α :=
  if bound<(queue++[a]).length then (queue++[a]).tail else queue++[a]

section

variable [Field R] [LinearOrder R]

/-- Position between two ENU samples, by linear interpolation. -/
def between (a b : StampedENU R) (time : R) : Vec3 R :=
  if b.time-a.time<1e-6 then a.position
  else
    let ratio := (time-a.time)/(b.time-a.time)
    let span := b.position.sub a.position
    a.position.add ⟨ratio*span.x,ratio*span.y,ratio*span.z⟩

/-- `interpolateENU`: the first two neighbours around the stamp decide; a gap that
is too large gives nothing. -/
def interpolateENU (maxTimeDiff time : R) : List (StampedENU R) → Option (Vec3 R)
  | a::b::rest =>
    if a.time≤time ∧ time≤b.time then
      if maxTimeDiff<b.time-a.time then none else some (between a b time)
    else interpolateENU maxTimeDiff time (b::rest)
  | _ => none

/-- The loop of `trySync`: the GPS samples left and the window. -/
def syncLoop (s : DatumSynchronizer R) :
    List (StampedGPS R) → List (SyncedPair R) → List (StampedGPS R)×List (SyncedPair R)
  | [],window => ([],window)
  | gps::rest,window =>
    match s.enuBuffer.head?,s.enuBuffer.getLast? with
    | some oldest,some newest =>
      if s.enuBuffer.length<2 then (gps::rest,window)
      -- older than every ENU sample: dropped
      else if gps.time<oldest.time then syncLoop s rest window
      -- newer than every ENU sample: waits, and all behind it
      else if newest.time<gps.time then (gps::rest,window)
      else match interpolateENU s.maxTimeDiff gps.time s.enuBuffer with
        | some enu => syncLoop s rest (pushBounded s.windowSize window ⟨gps.time,enu,gps.lonLatAlt⟩)
        | none => syncLoop s rest window
    | _,_ => (gps::rest,window)

/-- `trySync`. -/
def trySync (s : DatumSynchronizer R) : DatumSynchronizer R :=
  { s with
    gpsBuffer := (syncLoop s s.gpsBuffer s.syncedWindow).1
    syncedWindow := (syncLoop s s.gpsBuffer s.syncedWindow).2 }

/-- `pushENU`: at most 200 samples are kept. -/
def pushENU (s : DatumSynchronizer R) (e : StampedENU R) : DatumSynchronizer R :=
  trySync { s with enuBuffer := pushBounded 200 s.enuBuffer e }

/-- `pushGPS`: at most 50 samples are kept. -/
def pushGPS (s : DatumSynchronizer R) (g : StampedGPS R) : DatumSynchronizer R :=
  trySync { s with gpsBuffer := pushBounded 50 s.gpsBuffer g }

/-- One call of either callback. -/
def push (s : DatumSynchronizer R) :
    Arrival (StampedENU R) (StampedGPS R) → DatumSynchronizer R
  | .item e => pushENU s e
  | .request g => pushGPS s g

/-- `isWindowReliable`: the spread of the paired local positions is small. -/
def isWindowReliable (s : DatumSynchronizer R) : Bool :=
  let n : R := s.syncedWindow.length
  let sum := s.syncedWindow.foldl (fun (acc : Vec3 R) p => acc.add p.enu) .zero
  let mean : Vec3 R := ⟨sum.x/n,sum.y/n,sum.z/n⟩
  let spread := s.syncedWindow.foldl (fun (acc : R) p =>
    let d := p.enu.sub mean
    acc+(d.x*d.x+d.y*d.y+d.z*d.z)) 0
  decide (spread/n<5.0)

/-- `getReliableDatum`: the latest pair of a full and steady window. -/
def getReliableDatum (s : DatumSynchronizer R) : Option (SyncedPair R) :=
  if s.syncedWindow.length<s.windowSize then none
  else if isWindowReliable s=true then s.syncedWindow.getLast? else none

/-- What becomes of a GPS sample, given the ENU samples so far: nothing yet, no
pair, or its pair. -/
def verdict (maxTimeDiff : R) (enu : List (StampedENU R)) (gps : StampedGPS R) :
    Option (Option (SyncedPair R)) :=
  match enu.head?,enu.getLast? with
  | some oldest,some newest =>
    if enu.length<2 then none
    else if gps.time<oldest.time then some none
    else if newest.time<gps.time then none
    else some ((interpolateENU maxTimeDiff gps.time enu).map fun p => ⟨gps.time,p,gps.lonLatAlt⟩)
  | _,_ => none

end

section

variable {α : Type*}

/-- A queue below its bound only grows. -/
theorem pushBounded_of_lt {bound : ℕ} {queue : List α} (h : queue.length<bound) (a : α) :
    pushBounded bound queue a=queue++[a] := by
  have hlen : (queue++[a]).length=queue.length+1 := List.length_append
  dsimp only [pushBounded]
  rw [if_neg (by omega)]

/-- A bounded queue holds the last entries pushed. -/
theorem pushBounded_rtake (n : ℕ) (entries : List α) (a : α) :
    pushBounded n (entries.rtake n) a=(entries++[a]).rtake n := by
  have hpush : entries.rtake n++[a]=(entries++[a]).drop (entries.length-n) :=
    (List.drop_append_of_le_length (Nat.sub_le _ _)).symm
  have hlen : (entries++[a]).length=entries.length+1 := List.length_append
  dsimp only [pushBounded]
  rw [hpush,List.length_drop,hlen,List.rtake,hlen]
  by_cases hfull : n≤entries.length
  · have hdrop : entries.length+1-n=entries.length-n+1 := by omega
    rw [if_pos (by omega),List.tail_drop,hdrop]
  · have hnone : entries.length-n=0 := by omega
    have hnone' : entries.length+1-n=0 := by omega
    rw [if_neg (by omega),hnone,hnone']

end

variable [Field R] [LinearOrder R]

/-- One round of the loop follows the verdict on the front sample. -/
theorem syncLoop_cons (s : DatumSynchronizer R) (g : StampedGPS R) (rest : List (StampedGPS R))
    (window : List (SyncedPair R)) :
    syncLoop s (g::rest) window=
      match verdict s.maxTimeDiff s.enuBuffer g with
      | none => (g::rest,window)
      | some none => syncLoop s rest window
      | some (some pair) => syncLoop s rest (pushBounded s.windowSize window pair) := by
  dsimp only [syncLoop,verdict]
  cases s.enuBuffer.head? with
  | none => rfl
  | some oldest =>
    cases s.enuBuffer.getLast? with
    | none => rfl
    | some newest =>
      dsimp only
      split_ifs
      · rfl
      · rfl
      · rfl
      · cases interpolateENU s.maxTimeDiff g.time s.enuBuffer <;> rfl

/-- The loop serves the waiting samples and appends their pairs to the window. -/
theorem syncLoop_eq (s : DatumSynchronizer R) (gs : List (StampedGPS R))
    (pairs : List (SyncedPair R)) :
    syncLoop s gs (pairs.rtake s.windowSize)=
      ((serve (verdict s.maxTimeDiff) s.enuBuffer gs).2,
        (pairs++(serve (verdict s.maxTimeDiff) s.enuBuffer gs).1.reduceOption).rtake
          s.windowSize) := by
  induction gs generalizing pairs with
  | nil =>
    simp only [serve,List.reduceOption_nil,List.append_nil]
    rfl
  | cons g rest ih =>
    rw [syncLoop_cons]
    cases hv : verdict s.maxTimeDiff s.enuBuffer g with
    | none => simp only [serve,hv,List.reduceOption_nil,List.append_nil]
    | some outcome =>
      cases outcome with
      | none => simp only [serve,hv,List.reduceOption_cons_of_none,ih]
      | some pair =>
        simp only [serve,hv,List.reduceOption_cons_of_some,pushBounded_rtake,ih]
        rw [List.append_assoc,List.singleton_append]

/-- A stamp inside the samples is decided by them alone, whatever follows. -/
theorem interpolateENU_append {maxTimeDiff time : R} {enu : List (StampedENU R)}
    (hlen : 2≤enu.length) (hfirst : ∀ a∈enu.head?,a.time≤time)
    (hlast : ∀ b∈enu.getLast?,time≤b.time) (more : List (StampedENU R)) :
    interpolateENU maxTimeDiff time (enu++more)=interpolateENU maxTimeDiff time enu := by
  induction enu with
  | nil => exact absurd hlen (by simp)
  | cons a rest ih =>
    cases rest with
    | nil => exact absurd hlen (by simp)
    | cons b rest =>
      have ha : a.time≤time := hfirst a rfl
      by_cases hb : time≤b.time
      · simp only [List.cons_append,interpolateENU,ha,hb,and_self,if_true]
      · have hbt : b.time≤time := le_of_lt (not_le.mp hb)
        cases rest with
        | nil => exact absurd (hlast b rfl) hb
        | cons c rest =>
          have hrest : ∀ d∈(b::c::rest).getLast?,time≤d.time := by
            intro d hd
            exact hlast d (by rwa [List.getLast?_cons_cons])
          have hstep := ih (by simp) (fun d hd => by
            obtain rfl := Option.mem_some.mp hd
            exact hbt) hrest
          simp only [List.cons_append,interpolateENU,ha,hb,and_false,if_false] at hstep ⊢
          exact hstep

omit [Field R] in
/-- With increasing stamps, a longer record does not have an older newest sample. -/
theorem newest_le {enu more : List (StampedENU R)}
    (hinc : (enu++more).Pairwise fun a b => a.time < b.time) {newest later : StampedENU R}
    (hnewest : enu.getLast?=some newest) (hlater : (enu++more).getLast?=some later) :
    newest.time≤later.time := by
  cases hmore : more.getLast? with
  | none =>
    rw [List.getLast?_eq_none_iff.mp hmore,List.append_nil,hnewest] at hlater
    obtain rfl := Option.some.inj hlater
    exact le_refl _
  | some b =>
    have hb : later=b := by
      rw [List.getLast?_append,hmore,Option.some_or] at hlater
      exact (Option.some.inj hlater).symm
    have hin : newest∈enu := List.mem_of_getLast? hnewest
    have hbin : b∈more := List.mem_of_getLast? hmore
    rw [hb]
    exact le_of_lt ((List.pairwise_append.mp hinc).2.2 newest hin b hbin)

/-- Without a sample there is no verdict. -/
theorem verdict_eq_some {maxTimeDiff : R} {enu : List (StampedENU R)} {g : StampedGPS R}
    {outcome : Option (SyncedPair R)} (h : verdict maxTimeDiff enu g=some outcome) :
    ∃ oldest newest,enu.head?=some oldest ∧ enu.getLast?=some newest := by
  cases hold : enu.head? with
  | none =>
    rw [verdict,hold] at h
    cases h
  | some oldest =>
    cases hnew : enu.getLast? with
    | none =>
      rw [verdict,hold,hnew] at h
      cases h
    | some newest => exact ⟨oldest,newest,rfl,rfl⟩

/-- Verdicts on a record of increasing stamps are never revised. -/
theorem verdict_stable {maxTimeDiff : R} {all : List (StampedENU R)}
    (hinc : all.Pairwise fun a b => a.time < b.time) : Stable (verdict maxTimeDiff) all := by
  rintro early late ⟨more,rfl⟩ hlate g outcome h
  have hlateInc : (early++more).Pairwise fun a b => a.time < b.time := hinc.sublist hlate.sublist
  obtain ⟨oldest,newest,hold,hnew⟩ := verdict_eq_some h
  have hold' : (early++more).head?=some oldest := by
    rw [List.head?_append,hold,Option.some_or]
  obtain ⟨later,hlater⟩ : ∃ later,(early++more).getLast?=some later := by
    rw [List.getLast?_append,hnew]
    cases more.getLast? with
    | none => exact ⟨newest,rfl⟩
    | some b => exact ⟨b,rfl⟩
  have hle : newest.time≤later.time := newest_le hlateInc hnew hlater
  have hlonger : early.length≤(early++more).length := by
    rw [List.length_append]
    exact Nat.le_add_right _ _
  dsimp only [verdict] at h ⊢
  rw [hold,hnew] at h
  rw [hold',hlater]
  dsimp only at h ⊢
  by_cases hfew : early.length<2
  · rw [if_pos hfew] at h
    cases h
  rw [if_neg hfew] at h
  rw [if_neg (by omega)]
  by_cases hdropped : g.time<oldest.time
  · rw [if_pos hdropped] at h ⊢
    exact h
  rw [if_neg hdropped] at h ⊢
  by_cases hwaits : newest.time<g.time
  · rw [if_pos hwaits] at h
    cases h
  rw [if_neg hwaits] at h
  rw [if_neg (not_lt.mpr ((not_lt.mp hwaits).trans hle))]
  have hsame : interpolateENU maxTimeDiff g.time (early++more)=
      interpolateENU maxTimeDiff g.time early := by
    refine interpolateENU_append (not_lt.mp hfew) (fun a ha => ?_) (fun b hb => ?_) more
    · rw [hold] at ha
      obtain rfl := Option.mem_some.mp ha
      exact not_lt.mp hdropped
    · rw [hnew] at hb
      obtain rfl := Option.mem_some.mp hb
      exact not_lt.mp hwaits
  rw [hsame]
  exact h

/-- The synchroniser holds what the abstract join holds: the record, the waiting
samples, and the last pairs. -/
structure Mirrors (s : DatumSynchronizer R)
    (j : JoinState (StampedENU R) (StampedGPS R) (Option (SyncedPair R))) : Prop where
  /-- No ENU sample has been lost. -/
  record : s.enuBuffer=j.record
  /-- No waiting GPS sample has been lost. -/
  waiting : s.gpsBuffer=j.waiting
  /-- The window holds the last pairs. -/
  window : s.syncedWindow=j.answers.reduceOption.rtake s.windowSize

/-- Synchronising is settling. -/
theorem mirrors_trySync {s : DatumSynchronizer R}
    {j : JoinState (StampedENU R) (StampedGPS R) (Option (SyncedPair R))} (h : Mirrors s j) :
    Mirrors (trySync s) (settle (verdict s.maxTimeDiff) j) := by
  have hloop := syncLoop_eq s s.gpsBuffer j.answers.reduceOption
  rw [←h.window,h.record,h.waiting] at hloop
  refine ⟨h.record,?_,?_⟩
  · dsimp only [trySync,settle]
    rw [h.waiting,hloop]
  · dsimp only [trySync,settle]
    rw [h.waiting,hloop,List.reduceOption_append]

/-- An ENU sample that finds room extends the record. -/
theorem mirrors_pushENU {s : DatumSynchronizer R}
    {j : JoinState (StampedENU R) (StampedGPS R) (Option (SyncedPair R))} (h : Mirrors s j)
    (hroom : j.record.length<200) (e : StampedENU R) :
    Mirrors (push s (.item e)) (step (verdict s.maxTimeDiff) j (.item e)) := by
  have hpush : pushBounded 200 s.enuBuffer e=j.record++[e] := by
    rw [h.record]
    exact pushBounded_of_lt hroom e
  have hmirror : Mirrors { s with enuBuffer := pushBounded 200 s.enuBuffer e }
      { j with record := j.record++[e] } := ⟨hpush,h.waiting,h.window⟩
  exact mirrors_trySync hmirror

/-- A GPS sample that finds room is a request. -/
theorem mirrors_pushGPS {s : DatumSynchronizer R}
    {j : JoinState (StampedENU R) (StampedGPS R) (Option (SyncedPair R))} (h : Mirrors s j)
    (hroom : j.waiting.length<50) (g : StampedGPS R) :
    Mirrors (push s (.request g)) (step (verdict s.maxTimeDiff) j (.request g)) := by
  have hpush : pushBounded 50 s.gpsBuffer g=j.waiting++[g] := by
    rw [h.waiting]
    exact pushBounded_of_lt hroom g
  have hmirror : Mirrors { s with gpsBuffer := pushBounded 50 s.gpsBuffer g }
      { j with waiting := j.waiting++[g] } := ⟨h.record,hpush,h.window⟩
  exact mirrors_trySync hmirror

/-- The settings never change. -/
theorem push_settings (s : DatumSynchronizer R) (a : Arrival (StampedENU R) (StampedGPS R)) :
    (push s a).maxTimeDiff=s.maxTimeDiff ∧ (push s a).windowSize=s.windowSize := by
  cases a <;> exact ⟨rfl,rfl⟩

/-- The settings of a synchroniser survive every run. -/
theorem run_settings (s : DatumSynchronizer R)
    (arrivals : List (Arrival (StampedENU R) (StampedGPS R))) :
    (runFrom push s arrivals).maxTimeDiff=s.maxTimeDiff ∧
      (runFrom push s arrivals).windowSize=s.windowSize := by
  refine run_invariant (P := fun t : DatumSynchronizer R =>
    t.maxTimeDiff=s.maxTimeDiff ∧ t.windowSize=s.windowSize) (fun t a ht => ?_) arrivals ⟨rfl,rfl⟩
  obtain ⟨hdiff,hsize⟩ := push_settings t a
  exact ⟨hdiff.trans ht.1,hsize.trans ht.2⟩

/-- While neither stream outgrows its queue, the synchroniser mirrors the join. -/
theorem run_mirrors (maxTimeDiff : R) (windowSize : ℕ)
    (arrivals : List (Arrival (StampedENU R) (StampedGPS R)))
    (henu : (items arrivals).length≤200) (hgps : (requests arrivals).length≤50) :
    Mirrors (runFrom push { maxTimeDiff := maxTimeDiff, windowSize := windowSize } arrivals)
      (runFrom (step (verdict maxTimeDiff)) {} arrivals) := by
  induction arrivals using List.reverseRecOn with
  | nil => exact ⟨rfl,rfl,(List.rtake_nil _).symm⟩
  | append_singleton before last ih =>
    obtain ⟨hrecord,hwaiting⟩ := run_bounds (verdict maxTimeDiff) before
    obtain ⟨hdiff,_⟩ := run_settings
      ({ maxTimeDiff := maxTimeDiff, windowSize := windowSize } : DatumSynchronizer R) before
    have hitems : items (before++[last])=items before++items [last] := List.filterMap_append
    have hrequests : requests (before++[last])=requests before++requests [last] :=
      List.filterMap_append
    rw [hitems,List.length_append] at henu
    rw [hrequests,List.length_append] at hgps
    have hmirror := ih (by omega) (by omega)
    rw [runFrom_append,runFrom_cons,runFrom_nil,runFrom_append,runFrom_cons,runFrom_nil]
    cases last with
    | item e =>
      have hone : (items [(Arrival.item e : Arrival (StampedENU R) (StampedGPS R))]).length=1 := rfl
      have hstep := mirrors_pushENU hmirror (by rw [hrecord]; omega) e
      rwa [hdiff] at hstep
    | request g =>
      have hone : (requests [(Arrival.request g : Arrival (StampedENU R) (StampedGPS R))]).length=1 :=
        rfl
      have hstep := mirrors_pushGPS hmirror (by omega) g
      rwa [hdiff] at hstep

/-- The pair of a GPS sample: the two ENU samples around its stamp are neighbours
at most the allowed gap apart, and the position is interpolated between them. -/
def PairOf (maxTimeDiff : R) (enu : List (StampedENU R)) (p : SyncedPair R)
    (g : StampedGPS R) : Prop :=
  ∃ earlier a b later,enu=earlier++a::b::later ∧ a.time≤g.time ∧ g.time≤b.time ∧
    b.time-a.time ≤ maxTimeDiff ∧ p=⟨g.time,between a b g.time,g.lonLatAlt⟩

/-- An interpolated position comes from two close neighbours around the stamp. -/
theorem interpolateENU_eq_some {maxTimeDiff time : R} {enu : List (StampedENU R)} {p : Vec3 R}
    (h : interpolateENU maxTimeDiff time enu=some p) :
    ∃ earlier a b later,enu=earlier++a::b::later ∧ a.time≤time ∧ time≤b.time ∧
      b.time-a.time ≤ maxTimeDiff ∧ p=between a b time := by
  induction enu with
  | nil => cases h
  | cons a rest ih =>
    cases rest with
    | nil => cases h
    | cons b rest =>
      dsimp only [interpolateENU] at h
      split_ifs at h with haround hgap
      · exact ⟨[],a,b,rest,rfl,haround.1,haround.2,not_lt.mp hgap,(Option.some.inj h).symm⟩
      · obtain ⟨earlier,c,d,later,heq,hrest⟩ := ih h
        exact ⟨a::earlier,c,d,later,by rw [heq]; rfl,hrest⟩

/-- A sample that gets a pair gets its own. -/
theorem pairOf_of_verdict {maxTimeDiff : R} {enu : List (StampedENU R)} {p : SyncedPair R}
    {g : StampedGPS R} (h : verdict maxTimeDiff enu g=some (some p)) :
    PairOf maxTimeDiff enu p g := by
  obtain ⟨oldest,newest,hold,hnew⟩ := verdict_eq_some h
  dsimp only [verdict] at h
  rw [hold,hnew] at h
  dsimp only at h
  split_ifs at h
  · cases h
  · obtain ⟨q,hq,hp⟩ := Option.map_eq_some_iff.mp (Option.some.inj h)
    obtain ⟨earlier,a,b,later,heq,ha,hb,hgap,hq'⟩ := interpolateENU_eq_some hq
    exact ⟨earlier,a,b,later,heq,ha,hb,hgap,by rw [←hp,hq']⟩

/-- The pairs among some verdicts are those of a part of the samples, in their order. -/
theorem pairs_of_verdicts {maxTimeDiff : R} {enu : List (StampedENU R)}
    (gs : List (StampedGPS R)) (answers : List (Option (SyncedPair R)))
    (h : gs.map (verdict maxTimeDiff enu)=answers.map some) :
    ∃ used,used.Sublist gs ∧
      List.Forall₂ (PairOf maxTimeDiff enu) answers.reduceOption used := by
  induction gs generalizing answers with
  | nil =>
    obtain rfl := List.map_eq_nil_iff.mp h.symm
    exact ⟨[],List.Sublist.refl _,.nil⟩
  | cons g rest ih =>
    cases answers with
    | nil => cases h
    | cons answer answers =>
      obtain ⟨hhead,htail⟩ := List.cons.inj h
      obtain ⟨used,hused,hpairs⟩ := ih answers htail
      cases answer with
      | none =>
        rw [List.reduceOption_cons_of_none]
        exact ⟨used,hused.cons g,hpairs⟩
      | some p =>
        rw [List.reduceOption_cons_of_some]
        exact ⟨g::used,hused.cons_cons g,.cons (pairOf_of_verdict hhead) hpairs⟩

/-- The window that two whole streams lead to. -/
def syncedPairs (maxTimeDiff : R) (windowSize : ℕ) (enu : List (StampedENU R))
    (gps : List (StampedGPS R)) : List (SyncedPair R) :=
  (serve (verdict maxTimeDiff) enu gps).1.reduceOption.rtake windowSize

/-- The window does not depend on how the callbacks interleave; it pairs part of
the GPS samples, each at most once and in their order, with the position between
two ENU samples that are close enough. -/
theorem pairs_independent (maxTimeDiff : R) (windowSize : ℕ) (enu : List (StampedENU R))
    (gps : List (StampedGPS R)) (hinc : enu.Pairwise fun a b => a.time < b.time)
    (henu : enu.length≤200) (hgps : gps.length≤50) :
    (∀ arrivals,items arrivals=enu → requests arrivals=gps →
      (runFrom push { maxTimeDiff := maxTimeDiff, windowSize := windowSize }
        arrivals).syncedWindow=syncedPairs maxTimeDiff windowSize enu gps) ∧
    ∃ used,used.Sublist gps ∧ List.Forall₂ (PairOf maxTimeDiff enu)
      (syncedPairs maxTimeDiff windowSize enu gps) used := by
  constructor
  · rintro arrivals rfl rfl
    have hmirror := run_mirrors maxTimeDiff windowSize arrivals henu hgps
    obtain ⟨_,hsize⟩ := run_settings
      ({ maxTimeDiff := maxTimeDiff, windowSize := windowSize } : DatumSynchronizer R) arrivals
    rw [hmirror.window,hsize,run_eq_serve arrivals (verdict_stable hinc)]
    rfl
  · obtain ⟨served,hserved,hmap⟩ := serve_sublist (verdict maxTimeDiff) enu gps
    obtain ⟨used,hused,hpairs⟩ := pairs_of_verdicts served _ hmap
    exact ⟨_,(List.drop_sublist _ used).trans (hused.trans hserved.sublist),
      List.forall₂_drop _ hpairs⟩

/-- One GPS sample between two ENU samples, whichever stream is late. -/
def lateENU : List (Arrival (StampedENU ℚ) (StampedGPS ℚ)) :=
  [.request ⟨1/20,⟨5,6,7⟩⟩,.item ⟨0,⟨0,0,0⟩⟩,.item ⟨1/10,⟨2,0,0⟩⟩]

/-- A sample halfway between two ENU samples is paired with their midpoint. -/
theorem lateENU_paired :
    (runFrom push ({ maxTimeDiff := 1/10 } : DatumSynchronizer ℚ) lateENU).syncedWindow=
      [⟨1/20,⟨1,0,0⟩,⟨5,6,7⟩⟩] := by
  have h := (pairs_independent (1/10 : ℚ) 10 (items lateENU) (requests lateENU)
    (by decide +kernel) (by decide) (by decide)).1 lateENU rfl rfl
  rw [h]
  decide +kernel

end Dankong.DatumSync

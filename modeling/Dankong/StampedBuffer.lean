import Mathlib.Algebra.Order.Group.Abs
import Mathlib.Data.List.TakeWhile
import Mathlib.Tactic.Linarith
import Dankong.Runs

/-!
# Buffers of stamped samples

A buffer keeps samples in the order of strictly increasing stamps. A push drops
late samples and prunes old ones at the front; a record is the same buffer
without pruning. A query between the ends of a buffer is answered from its two
neighbours, whatever the distance to them; outside it is answered from the
nearer end, up to a tolerance. The last part says which answers are backed by
a recorded sample near the query.
-/

namespace Dankong.StampedBuffer

/-- A value with the time it was taken at. -/
structure Stamped (R V : Type*) where
  /-- Time of the sample. -/
  stamp : R
  /-- What was measured. -/
  value : V
  deriving DecidableEq, Repr

/-- Samples in the order of their stamps, oldest first, no two at one time. -/
structure Buffer (R V : Type*) [LT R] where
  /-- The samples, oldest first. -/
  samples : List (Stamped R V)
  /-- Every sample is newer than those before it. -/
  ordered : samples.Pairwise (fun a b => a.stamp<b.stamp)

section Ends

variable {R V : Type*} [LinearOrder R] {samples : List (Stamped R V)}

/-- No sample is newer than the last one. -/
theorem stamp_le_back (h : samples.Pairwise (fun a b => a.stamp<b.stamp)) {s back : Stamped R V}
    (hs : s∈samples) (hback : samples.getLast?=some back) : s.stamp ≤ back.stamp := by
  obtain ⟨earlier,rfl⟩ := List.getLast?_eq_some_iff.mp hback
  rcases List.mem_append.mp hs with hs|hs
  · have hlt := (List.pairwise_append.mp h).2.2 s hs back List.mem_cons_self
    exact hlt.le
  · rw [List.mem_singleton.mp hs]

/-- No sample is older than the first one. -/
theorem front_le_stamp (h : samples.Pairwise (fun a b => a.stamp<b.stamp)) {s front : Stamped R V}
    (hs : s∈samples) (hfront : samples.head?=some front) : front.stamp ≤ s.stamp := by
  obtain ⟨later,rfl⟩ := List.head?_eq_some_iff.mp hfront
  rcases List.mem_cons.mp hs with rfl|hs
  · exact le_rfl
  · exact ((List.pairwise_cons.mp h).1 s hs).le

/-- The stamp is not newer than the latest sample. -/
def isLate (samples : List (Stamped R V)) (t : R) : Bool :=
  samples.getLast?.any fun back => decide (t≤back.stamp)

/-- A sample that is not late is newer than the whole buffer. -/
theorem ordered_append (h : samples.Pairwise (fun a b => a.stamp<b.stamp)) {s : Stamped R V}
    (hlate : isLate samples s.stamp=false) :
    (samples++[s]).Pairwise (fun a b => a.stamp<b.stamp) := by
  refine List.pairwise_append.mpr ⟨h,List.pairwise_singleton _ _,fun a ha b hb => ?_⟩
  rw [List.mem_singleton.mp hb]
  cases hback : samples.getLast? with
  | none =>
    rw [List.getLast?_eq_none_iff.mp hback] at ha
    exact absurd ha List.not_mem_nil
  | some back =>
    have hlt : back.stamp<s.stamp := by
      simpa [isLate,hback] using hlate
    exact (stamp_le_back h ha hback).trans_lt hlt

/-- The last sample before a time and the first one that is not before it. -/
def neighbours (t : R) (samples : List (Stamped R V)) : Option (Stamped R V×Stamped R V) :=
  match (samples.takeWhile (fun s => decide (s.stamp<t))).getLast?,
      (samples.dropWhile (fun s => decide (s.stamp<t))).head? with
  | some before,some after => some (before,after)
  | _,_ => none

/-- A time inside the buffer has neighbours in it. -/
theorem neighbours_inside {front back : Stamped R V} (hfront : samples.head?=some front)
    (hback : samples.getLast?=some back) (hlow : front.stamp<t) (hhigh : t<back.stamp) :
    ∃ earlier before after later,samples=earlier++before::after::later ∧
      before.stamp<t ∧ t ≤ after.stamp ∧ neighbours t samples=some (before,after) := by
  have hsplit := List.takeWhile_append_dropWhile (p := fun s : Stamped R V => decide (s.stamp<t))
    (l := samples)
  cases hbefore : (samples.takeWhile (fun s => decide (s.stamp<t))).getLast? with
  | none =>
    have hhead := List.head?_takeWhile (p := fun s : Stamped R V => decide (s.stamp<t))
      (l := samples)
    rw [List.getLast?_eq_none_iff.mp hbefore,hfront] at hhead
    rw [Option.filter_some,if_pos (decide_eq_true hlow)] at hhead
    exact absurd hhead (Option.some_ne_none front).symm
  | some before =>
    cases hafter : (samples.dropWhile (fun s => decide (s.stamp<t))).head? with
    | none =>
      have hall := List.dropWhile_eq_nil_iff.mp (List.head?_eq_none_iff.mp hafter)
      have hb := of_decide_eq_true (hall back (List.mem_of_getLast? hback))
      exact absurd hhigh hb.asymm
    | some after =>
      obtain ⟨earlier,he⟩ := List.getLast?_eq_some_iff.mp hbefore
      obtain ⟨later,hl⟩ := List.head?_eq_some_iff.mp hafter
      have hb : before.stamp<t := by
        have hmem : before∈samples.takeWhile (fun s => decide (s.stamp<t)) :=
          List.mem_of_getLast? hbefore
        simpa using List.mem_takeWhile_imp (p := fun s : Stamped R V => decide (s.stamp<t)) hmem
      have ha : t ≤ after.stamp := by
        have hnot := List.head?_dropWhile_not (fun s : Stamped R V => decide (s.stamp<t)) samples
        rw [hafter] at hnot
        exact not_lt.mp (by simpa using hnot)
      refine ⟨earlier,before,after,later,?_,hb,ha,?_⟩
      · rw [←hsplit,he,hl,List.append_assoc,List.singleton_append]
      · rw [neighbours,hbefore,hafter]

end Ends

variable {R V : Type*} [AddCommGroup R] [LinearOrder R]

/-- Drop samples older than the horizon from the front, but keep two. -/
def prune (horizon now : R) : List (Stamped R V) → List (Stamped R V)
  | a::b::c::rest =>
    if horizon<now-a.stamp then prune horizon now (b::c::rest) else a::b::c::rest
  | samples => samples

/-- Pruning keeps an end of the buffer, and with it the latest sample. -/
theorem prune_suffix (horizon now : R) (samples : List (Stamped R V)) :
    prune horizon now samples <:+ samples ∧
      (prune horizon now samples).getLast?=samples.getLast? := by
  induction samples with
  | nil => exact ⟨List.suffix_refl [],rfl⟩
  | cons a rest ih =>
    match rest with
    | [] => exact ⟨List.suffix_refl [a],rfl⟩
    | [b] => exact ⟨List.suffix_refl [a,b],rfl⟩
    | b::c::rest =>
      rw [prune]
      split_ifs with hold
      · exact ⟨ih.1.trans (List.suffix_cons a _),ih.2.trans List.getLast?_cons_cons.symm⟩
      · exact ⟨List.suffix_refl _,rfl⟩

namespace Buffer

/-- The buffer before the first sample. -/
def empty : Buffer R V := ⟨[],List.Pairwise.nil⟩

/-- Keep a sample unless it is late. -/
def accept (buf : Buffer R V) (s : Stamped R V) : Buffer R V :=
  if h : isLate buf.samples s.stamp then buf
  else ⟨buf.samples++[s],ordered_append buf.ordered (Bool.eq_false_iff.mpr h)⟩

/-- Drop what is older than the horizon. -/
def pruned (horizon now : R) (buf : Buffer R V) : Buffer R V :=
  ⟨prune horizon now buf.samples,buf.ordered.sublist (prune_suffix horizon now buf.samples).1.sublist⟩

/-- Add a sample unless it is late, and drop what is older than the horizon. -/
def push (horizon : R) (buf : Buffer R V) (s : Stamped R V) : Buffer R V :=
  if isLate buf.samples s.stamp then buf else pruned horizon s.stamp (buf.accept s)

end Buffer

/-- The buffer is an end of the record and has its latest sample. -/
structure Retained (buf record : Buffer R V) : Prop where
  /-- Only samples at the front are missing. -/
  suffix : buf.samples <:+ record.samples
  /-- The latest sample is never pruned. -/
  latest : buf.samples.getLast?=record.samples.getLast?

omit [AddCommGroup R] in
/-- Nothing was pruned before the first sample. -/
theorem retained_empty : Retained (Buffer.empty : Buffer R V) Buffer.empty :=
  ⟨List.suffix_refl [],rfl⟩

/-- A push drops a sample that is late for both, or prunes what the record takes as well. -/
theorem push_cases (horizon : R) {buf record : Buffer R V} (h : Retained buf record)
    (s : Stamped R V) :
    (buf.push horizon s=buf ∧ record.accept s=record) ∨
      ((record.samples++[s]).Pairwise (fun a b => a.stamp<b.stamp) ∧
        (record.accept s).samples=record.samples++[s] ∧
        (buf.push horizon s).samples=prune horizon s.stamp (buf.samples++[s])) := by
  have hsame : isLate buf.samples s.stamp=isLate record.samples s.stamp := by
    rw [isLate,isLate,h.latest]
  by_cases hlate : isLate record.samples s.stamp=true
  · rw [Buffer.push,if_pos (hsame.trans hlate),Buffer.accept,dif_pos hlate]
    exact Or.inl ⟨rfl,rfl⟩
  · have hbuf : ¬isLate buf.samples s.stamp=true := by rwa [hsame]
    rw [Buffer.push,Buffer.accept,Buffer.accept,if_neg hbuf,dif_neg hbuf,dif_neg hlate]
    exact Or.inr ⟨ordered_append record.ordered (Bool.eq_false_iff.mpr hlate),rfl,rfl⟩

/-- A push takes the samples that the record takes. -/
theorem retained_push (horizon : R) {buf record : Buffer R V} (h : Retained buf record)
    (s : Stamped R V) : Retained (buf.push horizon s) (record.accept s) := by
  rcases push_cases horizon h s with ⟨hpush,hrecord⟩|⟨_,hrecord,hpush⟩
  · rwa [hpush,hrecord]
  · have happend : buf.samples++[s] <:+ record.samples++[s] := by
      obtain ⟨earlier,heq⟩ := h.suffix
      exact ⟨earlier,by rw [←List.append_assoc,heq]⟩
    have hprune := prune_suffix horizon s.stamp (buf.samples++[s])
    constructor
    · rw [hpush,hrecord]
      exact hprune.1.trans happend
    · rw [hpush,hrecord,hprune.2,List.getLast?_concat,List.getLast?_concat]

/-- The answer to a query, and how far away the nearest sample used for it is.
Outside the buffer the nearer end answers, unless it is out of tolerance. -/
def lookup (tolerance : R) (blend : Stamped R V → Stamped R V → R → V) (t : R)
    (samples : List (Stamped R V)) : Option (V×R) :=
  match samples.head?,samples.getLast? with
  | some front,some back =>
    if t≤front.stamp then
      if tolerance<front.stamp-t then none else some (front.value,front.stamp-t)
    else if back.stamp≤t then
      if tolerance<t-back.stamp then none else some (back.value,t-back.stamp)
    else
      (neighbours t samples).map fun n =>
        (blend n.1 n.2 t,min (n.2.stamp-t) (t-n.1.stamp))
  | _,_ => none

/-- A sample lies within the tolerance of the time. -/
def Near (tolerance : R) (samples : List (Stamped R V)) (t : R) : Prop :=
  ∃ s∈samples,|s.stamp-t| ≤ tolerance

/-- The time lies between two neighbours, out of tolerance of both. -/
def InGap (tolerance : R) (samples : List (Stamped R V)) (t : R) : Prop :=
  ∃ earlier before after later,samples=earlier++before::after::later ∧
    tolerance<t-before.stamp ∧ tolerance<after.stamp-t

/-- The buffer spans the time, up to the tolerance at both ends. -/
def Reaches (tolerance : R) (samples : List (Stamped R V)) (t : R) : Prop :=
  ∃ front∈samples.head?,∃ back∈samples.getLast?,
    front.stamp-t ≤ tolerance ∧ t-back.stamp ≤ tolerance

variable [IsOrderedAddMonoid R] {samples : List (Stamped R V)} {tolerance t : R}

/-- Exactly the times that the buffer spans are answered. -/
theorem lookup_isSome_iff (blend : Stamped R V → Stamped R V → R → V) (htol : 0 ≤ tolerance)
    (h : samples.Pairwise (fun a b => a.stamp<b.stamp)) :
    (lookup tolerance blend t samples).isSome ↔ Reaches tolerance samples t := by
  cases hfront : samples.head? with
  | none => simp [lookup,Reaches,hfront]
  | some front =>
    cases hback : samples.getLast? with
    | none => simp [lookup,Reaches,hback]
    | some back =>
      have hreach : Reaches tolerance samples t ↔
          front.stamp-t ≤ tolerance ∧ t-back.stamp ≤ tolerance := by
        simp [Reaches,hfront,hback]
      have hends : front.stamp ≤ back.stamp :=
        front_le_stamp h (List.mem_of_getLast? hback) hfront
      rw [hreach,lookup,hfront,hback]
      dsimp only
      split_ifs with hlow hfar hhigh hfar
      · simp [hfar.not_ge]
      · simp only [Option.isSome_some,true_iff]
        have hback' : t-back.stamp ≤ 0 := sub_nonpos.mpr (hlow.trans hends)
        exact ⟨not_lt.mp hfar,hback'.trans htol⟩
      · simp [hfar.not_ge]
      · simp only [Option.isSome_some,true_iff]
        have hfront' : front.stamp-t ≤ 0 := sub_nonpos.mpr (not_le.mp hlow).le
        exact ⟨hfront'.trans htol,not_lt.mp hfar⟩
      · obtain ⟨_,before,after,_,_,_,_,hn⟩ :=
          neighbours_inside hfront hback (not_le.mp hlow) (not_le.mp hhigh)
        rw [hn]
        simp only [Option.map_some,Option.isSome_some,true_iff]
        have hfront' : front.stamp-t ≤ 0 := sub_nonpos.mpr (not_le.mp hlow).le
        have hback' : t-back.stamp ≤ 0 := sub_nonpos.mpr (not_le.mp hhigh).le
        exact ⟨hfront'.trans htol,hback'.trans htol⟩

/-- Within a gap no sample is near. -/
theorem not_near_of_inGap (h : samples.Pairwise (fun a b => a.stamp<b.stamp))
    (hgap : InGap tolerance samples t) : ¬Near tolerance samples t := by
  obtain ⟨earlier,before,after,later,rfl,hbefore,hafter⟩ := hgap
  rintro ⟨s,hs,hnear⟩
  obtain ⟨hhigh,hlow⟩ := abs_sub_le_iff.mp hnear
  have hsplit : earlier++before::after::later=(earlier++[before])++after::later := by
    rw [List.append_assoc,List.singleton_append]
  rw [hsplit] at h hs
  rcases List.mem_append.mp hs with hs|hs
  · have hle : s.stamp ≤ before.stamp :=
      stamp_le_back (List.pairwise_append.mp h).1 hs List.getLast?_concat
    have hfar : tolerance<t-s.stamp := hbefore.trans_le (sub_le_sub_left hle t)
    exact hfar.not_ge hlow
  · have hle : after.stamp ≤ s.stamp :=
      front_le_stamp (List.pairwise_append.mp h).2.1 hs List.head?_cons
    have hfar : tolerance<s.stamp-t := hafter.trans_le (sub_le_sub_right hle t)
    exact hfar.not_ge hhigh

/-- A buffer spans the gaps in it. -/
theorem reaches_of_inGap (htol : 0 ≤ tolerance)
    (h : samples.Pairwise (fun a b => a.stamp<b.stamp)) (hgap : InGap tolerance samples t) :
    Reaches tolerance samples t := by
  obtain ⟨earlier,before,after,later,hsamples,hbefore,hafter⟩ := hgap
  have hb : before∈samples := by simp [hsamples]
  have ha : after∈samples := by simp [hsamples]
  have hne : samples≠[] := List.ne_nil_of_mem hb
  have hfront := front_le_stamp h hb (List.head?_eq_some_head hne)
  have hback := stamp_le_back h ha (List.getLast?_eq_some_getLast hne)
  refine ⟨_,List.head?_eq_some_head hne,_,List.getLast?_eq_some_getLast hne,?_,?_⟩
  · have hlt : before.stamp<t := sub_pos.mp (htol.trans_lt hbefore)
    exact (sub_nonpos.mpr (hfront.trans hlt.le)).trans htol
  · have hlt : t<after.stamp := sub_pos.mp (htol.trans_lt hafter)
    exact (sub_nonpos.mpr (hlt.le.trans hback)).trans htol

/-- Where the buffer spans the time, a sample is near exactly outside its gaps. -/
theorem near_iff (h : samples.Pairwise (fun a b => a.stamp<b.stamp))
    (hreach : Reaches tolerance samples t) :
    Near tolerance samples t ↔ ¬InGap tolerance samples t := by
  refine ⟨fun hnear hgap => not_near_of_inGap h hgap hnear,fun hgap => ?_⟩
  obtain ⟨front,hfront,back,hback,hlow,hhigh⟩ := hreach
  by_cases hin : front.stamp<t ∧ t<back.stamp
  · obtain ⟨earlier,before,after,later,hsamples,hb,ha,_⟩ :=
      neighbours_inside hfront hback hin.1 hin.2
    by_cases hfar : tolerance<t-before.stamp
    · have hnot : ¬tolerance<after.stamp-t := fun hlt =>
        hgap ⟨earlier,before,after,later,hsamples,hfar,hlt⟩
      have hneg : t-after.stamp ≤ after.stamp-t :=
        (sub_nonpos.mpr ha).trans (sub_nonneg.mpr ha)
      refine ⟨after,by simp [hsamples],abs_sub_le_iff.mpr ⟨not_lt.mp hnot,?_⟩⟩
      exact hneg.trans (not_lt.mp hnot)
    · have hneg : before.stamp-t ≤ t-before.stamp :=
        (sub_nonpos.mpr hb.le).trans (sub_nonneg.mpr hb.le)
      refine ⟨before,by simp [hsamples],abs_sub_le_iff.mpr ⟨?_,not_lt.mp hfar⟩⟩
      exact hneg.trans (not_lt.mp hfar)
  · by_cases hle : t ≤ front.stamp
    · have hneg : t-front.stamp ≤ front.stamp-t :=
        (sub_nonpos.mpr hle).trans (sub_nonneg.mpr hle)
      exact ⟨front,List.mem_of_head? hfront,abs_sub_le_iff.mpr ⟨hlow,hneg.trans hlow⟩⟩
    · have hge : back.stamp ≤ t := not_lt.mp fun hlt => hin ⟨not_le.mp hle,hlt⟩
      have hneg : back.stamp-t ≤ t-back.stamp :=
        (sub_nonpos.mpr hge).trans (sub_nonneg.mpr hge)
      exact ⟨back,List.mem_of_getLast? hback,abs_sub_le_iff.mpr ⟨hneg.trans hhigh,hhigh⟩⟩

/-- A pruned sample was not nearer to a time that the buffer spans. -/
theorem near_record_iff {buf record : Buffer R V} (hretained : Retained buf record)
    (hreach : Reaches tolerance buf.samples t) :
    Near tolerance record.samples t ↔ Near tolerance buf.samples t := by
  constructor
  · rintro ⟨s,hs,hnear⟩
    obtain ⟨hhigh,hlow⟩ := abs_sub_le_iff.mp hnear
    obtain ⟨front,hfront,back,hback,hfar,_⟩ := hreach
    obtain ⟨pruned,heq⟩ := hretained.suffix
    rw [←heq] at hs
    rcases List.mem_append.mp hs with hs|hs
    · have hordered := record.ordered
      rw [←heq] at hordered
      have hlt : s.stamp<front.stamp :=
        (List.pairwise_append.mp hordered).2.2 s hs front (List.mem_of_head? hfront)
      have hle : t-front.stamp ≤ tolerance := (sub_le_sub_left hlt.le t).trans hlow
      exact ⟨front,List.mem_of_head? hfront,abs_sub_le_iff.mpr ⟨hfar,hle⟩⟩
    · exact ⟨s,hs,hnear⟩
  · rintro ⟨s,hs,hnear⟩
    exact ⟨s,hretained.suffix.subset hs,hnear⟩

/-- An answer is backed by a recorded sample near the query exactly if the
query is not within a gap of the buffer. -/
theorem answered_near_iff (blend : Stamped R V → Stamped R V → R → V) (htol : 0 ≤ tolerance)
    {buf record : Buffer R V} (hretained : Retained buf record) :
    ((lookup tolerance blend t buf.samples).isSome → Near tolerance record.samples t) ↔
      ¬InGap tolerance buf.samples t := by
  rw [lookup_isSome_iff blend htol buf.ordered]
  constructor
  · intro hnear hgap
    have hreach := reaches_of_inGap htol buf.ordered hgap
    exact not_near_of_inGap buf.ordered hgap ((near_record_iff hretained hreach).mp (hnear hreach))
  · intro hgap hreach
    exact (near_record_iff hretained hreach).mpr ((near_iff buf.ordered hreach).mpr hgap)

end Dankong.StampedBuffer

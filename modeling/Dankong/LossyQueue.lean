import Mathlib.Algebra.GroupWithZero.Nat
import Mathlib.Data.List.Basic

/-!
# Bounded queues that drop their oldest element

A queue of bounded length with everything that was ever queued and everything that
left it. Whoever finds it full drops the oldest element to make room. The history is
split between what left and what is still queued, in order, and an element is dropped
only once the bound has been reached again by newer ones.
-/

namespace Dankong

/-- How an element left the queue. -/
inductive Fate where
  /-- It was taken from the front. -/
  | taken
  /-- It was dropped to make room. -/
  | dropped
  deriving DecidableEq

/-- A queue of bounded length and its history, oldest first. -/
structure LossyQueue (α : Type*) (bound : ℕ) where
  /-- What is in the queue. -/
  queue : List α
  /-- Everything that was ever queued. -/
  queued : List α
  /-- What left the queue, and how. -/
  gone : List (α×Fate)
  /-- Whatever was queued left in that order or is still there. -/
  order : queued=gone.map Prod.fst++queue
  /-- The bound. -/
  fits : queue.length≤bound
  /-- Nothing was dropped before the bound had been reached by newer elements. -/
  late : ∀ k x,gone[k]?=some (x,.dropped) → k+bound<queued.length

namespace LossyQueue

variable {α : Type*} {bound : ℕ}

/-- Nothing queued yet. -/
def empty : LossyQueue α bound where
  queue := []
  queued := []
  gone := []
  order := rfl
  fits := Nat.zero_le bound
  late := fun _ _ h => nomatch h

/-- What was taken, oldest first. -/
def taken (q : LossyQueue α bound) : List α :=
  (q.gone.filter fun e => e.2=.taken).map Prod.fst

/-- The history is as long as what left and what is still there. -/
theorem length_queued (q : LossyQueue α bound) :
    q.queued.length=q.gone.length+q.queue.length := by
  rw [q.order,List.length_append,List.length_map]

/-- An element that left was queued at the same place of the history. -/
theorem getElem?_queued {q : LossyQueue α bound} {k : ℕ} {x : α} {fate : Fate}
    (h : q.gone[k]?=some (x,fate)) : q.queued[k]?=some x := by
  obtain ⟨hk,_⟩ := List.getElem?_eq_some_iff.mp h
  rw [q.order,List.getElem?_append_left (by rwa [List.length_map]),List.getElem?_map,h]
  rfl

/-- What was taken is part of the history, in order. -/
theorem taken_sublist (q : LossyQueue α bound) : q.taken.Sublist q.queued := by
  have hgone : q.taken.Sublist (q.gone.map Prod.fst) := List.filter_sublist.map Prod.fst
  rw [q.order]
  exact hgone.trans (List.sublist_append_left _ _)

/-- Elements at the front leave in order. -/
theorem order_leave {q : LossyQueue α bound} (n : ℕ) (fate : Fate) :
    q.queued=(q.gone++(q.queue.take n).map fun x => (x,fate)).map Prod.fst++q.queue.drop n := by
  have hfront : ((q.queue.take n).map fun x => (x,fate)).map Prod.fst=q.queue.take n := by
    rw [List.map_map]
    exact List.map_id _
  rw [List.map_append,hfront,List.append_assoc,List.take_append_drop,q.order]

/-- What is known to be gone after elements at the front have left. -/
theorem gone_leave {q : LossyQueue α bound} {n k : ℕ} {x : α} {fate : Fate}
    (h : (q.gone++(q.queue.take n).map fun y => (y,fate))[k]?=some (x,.dropped)) :
    q.gone[k]?=some (x,.dropped) ∨ fate=.dropped ∧ k<q.gone.length+n := by
  rcases Nat.lt_or_ge k q.gone.length with hk | hk
  · exact Or.inl (by rwa [List.getElem?_append_left hk] at h)
  · rw [List.getElem?_append_right hk,List.getElem?_map] at h
    obtain ⟨y,hy,heq⟩ := Option.map_eq_some_iff.mp h
    obtain ⟨hlt,_⟩ := List.getElem?_eq_some_iff.mp hy
    rw [List.length_take] at hlt
    exact Or.inr ⟨congrArg Prod.snd heq,by omega⟩

/-- The front of the queue is taken. -/
def pop (q : LossyQueue α bound) : LossyQueue α bound where
  queue := q.queue.drop 1
  queued := q.queued
  gone := q.gone++(q.queue.take 1).map fun x => (x,.taken)
  order := order_leave 1 .taken
  fits := by
    have hfits := q.fits
    rw [List.length_drop]
    omega
  late := fun k x h => by
    rcases gone_leave h with hold | hnew
    · exact q.late k x hold
    · exact nomatch hnew.1

/-- How many elements have to go before another one is queued. -/
def surplus (bound : ℕ) (queue : List α) : ℕ := if bound≤queue.length then 1 else 0

/-- An element is queued; a full queue drops its oldest one. -/
def push [NeZero bound] (q : LossyQueue α bound) (x : α) : LossyQueue α bound where
  queue := q.queue.drop (surplus bound q.queue)++[x]
  queued := q.queued++[x]
  gone := q.gone++(q.queue.take (surplus bound q.queue)).map fun y => (y,.dropped)
  order := by rw [order_leave (surplus bound q.queue) .dropped,List.append_assoc]
  fits := by
    have hpos : bound≠0 := NeZero.ne bound
    have hfits := q.fits
    rw [List.length_append,List.length_drop,List.length_singleton,surplus]
    split_ifs <;> omega
  late := fun k y h => by
    have hlength := q.length_queued
    rw [List.length_append,List.length_singleton]
    rcases gone_leave h with hold | ⟨_,hnew⟩
    · have hlate := q.late k y hold
      omega
    · rw [surplus] at h hnew
      split_ifs at h hnew with hfull
      · omega
      · rw [List.take_zero,List.map_nil,List.append_nil] at h
        have hlate := q.late k y h
        omega

/-- Taking the front adds it to what was taken. -/
theorem taken_pop {q : LossyQueue α bound} {x : α} {rest : List α} (h : q.queue=x::rest) :
    q.pop.taken=q.taken++[x] := by
  have hgone : q.pop.gone=q.gone++[(x,.taken)] := by
    dsimp only [pop]
    rw [h]
    rfl
  rw [taken,hgone,List.filter_append,List.map_append]
  rfl

/-- Queueing an element takes nothing. -/
theorem taken_push [NeZero bound] (q : LossyQueue α bound) (x : α) :
    (q.push x).taken=q.taken := by
  have hdropped : ((q.queue.take (surplus bound q.queue)).map fun y => (y,Fate.dropped)).filter
      (fun e => e.2=.taken)=[] := by
    rw [List.filter_eq_nil_iff]
    intro e he
    obtain ⟨y,_,rfl⟩ := List.mem_map.mp he
    nofun
  dsimp only [taken,push]
  rw [List.filter_append,hdropped,List.append_nil]

end LossyQueue

end Dankong

import Mathlib.Data.List.Basic

/-!
# Sliding windows

A list takes new elements at the end and gives up its oldest one when it has grown
past its capacity. What it holds are the last elements of the input.
-/

namespace Dankong.SlidingWindow

variable {α : Type*} {capacity : ℕ} {xs : List α} {x : α}

/-- Append an element, and drop the oldest one if the list has become too long. -/
def push (capacity : ℕ) (xs : List α) (x : α) : List α :=
  if capacity<(xs++[x]).length then (xs++[x]).tail else xs++[x]

/-- The last elements of a list, as many as the capacity allows. -/
def lastOf (capacity : ℕ) (xs : List α) : List α := xs.drop (xs.length-capacity)

/-- A window keeps within its capacity. -/
theorem length_lastOf (capacity : ℕ) (xs : List α) :
    (lastOf capacity xs).length=min xs.length capacity := by
  rw [lastOf,List.length_drop]
  omega

/-- Every element of a window is one of the input. -/
theorem mem_of_mem_lastOf (h : x∈lastOf capacity xs) : x∈xs := List.mem_of_mem_drop h

/-- A list within the capacity is its own window. -/
theorem lastOf_of_le (h : xs.length≤capacity) : lastOf capacity xs=xs := by
  rw [lastOf,Nat.sub_eq_zero_of_le h,List.drop_zero]

/-- The window of two lists in a row is filled by the second one first. -/
theorem lastOf_append (capacity : ℕ) (xs ys : List α) :
    lastOf capacity (xs++ys)=lastOf (capacity-ys.length) xs++lastOf capacity ys := by
  have hys : (xs++ys).length-capacity-xs.length=ys.length-capacity := by
    rw [List.length_append]
    omega
  have hxs : xs.drop ((xs++ys).length-capacity)=xs.drop (xs.length-(capacity-ys.length)) := by
    rw [List.length_append]
    by_cases hroom : ys.length≤capacity
    · have hsame : xs.length+ys.length-capacity=xs.length-(capacity-ys.length) := by omega
      rw [hsame]
    · rw [List.drop_eq_nil_of_le (by omega),List.drop_eq_nil_of_le (by omega)]
  rw [lastOf,List.drop_append,hxs,hys]
  rfl

/-- Pushing to a window gives the window of the longer input. -/
theorem push_lastOf (capacity : ℕ) (xs : List α) (x : α) :
    push capacity (lastOf capacity xs) x=lastOf capacity (xs++[x]) := by
  have hlength : (lastOf capacity xs++[x]).length=min xs.length capacity+1 := by
    rw [List.length_append,length_lastOf,List.length_singleton]
  have htotal : (xs++[x]).length=xs.length+1 := by
    rw [List.length_append,List.length_singleton]
  have happend : lastOf capacity xs++[x]=(xs++[x]).drop (xs.length-capacity) := by
    rw [lastOf,List.drop_append_of_le_length (Nat.sub_le _ _)]
  rw [push,hlength,happend]
  change _=(xs++[x]).drop ((xs++[x]).length-capacity)
  rw [htotal]
  split_ifs with hfull
  · have hnext : xs.length+1-capacity=xs.length-capacity+1 := by omega
    rw [List.tail_drop,hnext]
  · have hnext : xs.length+1-capacity=xs.length-capacity := by omega
    rw [hnext]

/-- A list within its capacity stays within it. -/
theorem length_push (h : xs.length≤capacity) :
    (push capacity xs x).length=min (xs.length+1) capacity := by
  rw [push,List.length_append,List.length_singleton]
  split_ifs with hfull
  · rw [List.length_tail,List.length_append,List.length_singleton]
    omega
  · rw [List.length_append,List.length_singleton]
    omega

/-- What holds of all elements and of the new one holds of the whole window. -/
theorem forall_mem_push {P : α → Prop} (hxs : ∀ y∈xs,P y) (hx : P x) :
    ∀ y∈push capacity xs x,P y := by
  have hall : ∀ y∈xs++[x],P y := by
    intro y hy
    rcases List.mem_append.mp hy with hmem|hmem
    · exact hxs y hmem
    · rwa [List.mem_singleton.mp hmem]
  intro y hy
  rw [push] at hy
  split_ifs at hy with hfull
  · exact hall y (List.mem_of_mem_tail hy)
  · exact hall y hy

end Dankong.SlidingWindow

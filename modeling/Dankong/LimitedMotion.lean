import Mathlib.Analysis.Convex.Segment
import Mathlib.Analysis.Normed.Module.Convex

/-!
# Motion under limits

A velocity follows a target by accelerations that are cut short. Cutting the way
to the target keeps every convex set of velocities. Cutting the change of the
acceleration keeps it only if the old acceleration, held for one more step, does.
-/

namespace Dankong.LimitedMotion

section

variable {E : Type*} [AddCommGroup E] [Module ℝ E] {K : Set E} {v a a' b c : E} {dt : ℝ}

/-- A fraction of the way from one vector to another lies between them. -/
theorem fraction_mem_segment {t : ℝ} (h₀ : 0≤t) (h₁ : t≤1) (x y : E) : x+t•(y-x)∈segment ℝ x y := by
  rw [segment_eq_image']
  exact ⟨t,⟨h₀,h₁⟩,rfl⟩

/-- Accelerations on the way between two give velocities on the way between theirs. -/
theorem accelerate_mem_segment (v : E) (dt : ℝ) (h : b∈segment ℝ a a') :
    v+dt•b∈segment ℝ (v+dt•a) (v+dt•a') := by
  obtain ⟨s,t,hs,ht,hsum,rfl⟩ := h
  refine ⟨s,t,hs,ht,hsum,?_⟩
  have hv : v=s•v+t•v := by rw [←add_smul,hsum,one_smul]
  calc s•(v+dt•a)+t•(v+dt•a')=(s•v+t•v)+dt•(s•a+t•a') := by
        rw [smul_add,smul_add,smul_add,smul_comm s dt,smul_comm t dt]
        abel
    _=v+dt•(s•a+t•a') := by rw [←hv]

/-- If two accelerations keep a convex set of velocities, so do all between them. -/
theorem accelerate_mem (hK : Convex ℝ K) (ha : v+dt•a∈K) (ha' : v+dt•a'∈K)
    (h : b∈segment ℝ a a') : v+dt•b∈K :=
  hK.segment_subset ha ha' (accelerate_mem_segment v dt h)

/-- Part of the way to a target keeps a convex set that holds both ends. -/
theorem approach_mem (hK : Convex ℝ K) (hv : v∈K) (hc : c∈K) (hdt : dt≠0)
    (h : b∈segment ℝ 0 (dt⁻¹•(c-v))) : v+dt•b∈K := by
  refine accelerate_mem hK ?_ ?_ h
  · rwa [smul_zero,add_zero]
  · rwa [smul_inv_smul₀ hdt,add_sub_cancel]

/-- Cutting the change of the acceleration as well keeps the set if holding the old
acceleration does, wherever the cut takes effect. -/
theorem approach_change_mem (hK : Convex ℝ K) (hv : v∈K) (hc : c∈K) (hdt : dt≠0)
    (ha' : a'∈segment ℝ 0 (dt⁻¹•(c-v))) (h : b∈segment ℝ a a')
    (hheld : b≠a' → v+dt•a∈K) : v+dt•b∈K := by
  have hfree : v+dt•a'∈K := approach_mem hK hv hc hdt ha'
  by_cases hcut : b=a'
  · rwa [hcut]
  · exact accelerate_mem hK (hheld hcut) hfree h

end

section

variable {x c r : ℝ}

/-- A number kept within reach of another one lies between the two. -/
theorem max_min_mem_segment (hr : 0≤r) : max (c-r) (min x (c+r))∈segment ℝ c x := by
  rw [segment_eq_uIcc,Set.mem_uIcc]
  rcases le_total c x with hle|hle
  · refine Or.inl ⟨?_,?_⟩
    · exact le_max_of_le_right (le_min hle (by linarith))
    · exact max_le (by linarith) (min_le_left x (c+r))
  · refine Or.inr ⟨?_,?_⟩
    · exact le_max_of_le_right (le_min le_rfl (by linarith))
    · exact max_le (by linarith) ((min_le_left x (c+r)).trans hle)

end

end Dankong.LimitedMotion

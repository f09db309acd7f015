import Mathlib.Analysis.Normed.Module.Basic
import Mathlib.Algebra.Order.Floor.Semiring
import Mathlib.Tactic.Linarith
import Mathlib.Tactic.Module

/-!
# Closed loops

A potential that falls by one in every step outside the goal bounds the steps to the
goal. A point that follows a moving one by feedback and feed-forward closes in on it
while the commanded speed is cut, as long as the cut leaves more than the goal's speed.
-/

namespace Dankong.ClosedLoop

section

variable {State : Type*} {step : State → State} {Goal Inv : State → Prop} {V : State → ℝ}

/-- Below a bound of the potential the goal is reached in that many steps, and the
invariant holds up to the state that reaches it first. -/
theorem reached_of_potential_lt (hpos : ∀ s,Inv s → 0≤V s)
    (hinv : ∀ s,Inv s → ¬Goal s → Inv (step s))
    (hfall : ∀ s,Inv s → ¬Goal s → Goal (step s) ∨ V (step s)+1≤V s) (n : ℕ) {s : State}
    (hs : Inv s) (hlow : V s<n) :
    ∃ k≤n,Goal (step^[k] s) ∧ Inv (step^[k] s) ∧ ∀ m<k,Inv (step^[m] s) ∧ ¬Goal (step^[m] s) := by
  induction n generalizing s with
  | zero =>
    rw [Nat.cast_zero] at hlow
    exact absurd (hpos s hs) (not_le.mpr hlow)
  | succ n ih =>
    by_cases hgoal : Goal s
    · exact ⟨0,Nat.zero_le _,hgoal,hs,fun m hm => absurd hm (Nat.not_lt_zero m)⟩
    · have hnext : Inv (step s) := hinv s hs hgoal
      have hlater : ∃ k≤n,Goal (step^[k] (step s)) ∧ Inv (step^[k] (step s)) ∧
          ∀ m<k,Inv (step^[m] (step s)) ∧ ¬Goal (step^[m] (step s)) := by
        rcases hfall s hs hgoal with hdone|hless
        · exact ⟨0,Nat.zero_le _,hdone,hnext,fun m hm => absurd hm (Nat.not_lt_zero m)⟩
        · rw [Nat.cast_succ] at hlow
          exact ih hnext (by linarith)
      obtain ⟨k,hk,hreached,hkept,hfirst⟩ := hlater
      refine ⟨k+1,Nat.succ_le_succ hk,hreached,hkept,fun m hm => ?_⟩
      cases m with
      | zero => exact ⟨hs,hgoal⟩
      | succ m => exact hfirst m (Nat.lt_of_succ_lt_succ hm)

/-- The goal is reached within the potential's whole part and one step. -/
theorem reached_of_potential (hpos : ∀ s,Inv s → 0≤V s)
    (hinv : ∀ s,Inv s → ¬Goal s → Inv (step s))
    (hfall : ∀ s,Inv s → ¬Goal s → Goal (step s) ∨ V (step s)+1≤V s) {s : State} (hs : Inv s) :
    ∃ k≤⌊V s⌋₊+1,Goal (step^[k] s) ∧ Inv (step^[k] s) ∧ ∀ m<k,Inv (step^[m] s) ∧ ¬Goal (step^[m] s) := by
  refine reached_of_potential_lt hpos hinv hfall _ hs ?_
  rw [Nat.cast_succ]
  exact Nat.lt_floor_add_one (V s)

end

section

variable {E : Type*} [NormedAddCommGroup E] [NormedSpace ℝ E] {e f : E} {k t c dt : ℝ}

/-- The way to a goal that moves with a velocity, after a step at a share of the wanted
velocity. -/
theorem way_eq (e f : E) (k t dt : ℝ) :
    e+dt•f-dt•t•(k•e+f)=(1-dt*t*k)•e+(dt*(1-t))•f := by
  module

/-- The way to a moving goal becomes shorter: in proportion to its length if the wanted
velocity is followed, and by the speed left over if the velocity is cut to a limit. -/
theorem norm_way_le (hk : 0≤k) (hdt : 0≤dt) (hgain : k*dt≤1) (ht₀ : 0≤t) (ht₁ : t≤1)
    (hcut : t=1 ∨ t*‖k•e+f‖=c) :
    ‖e+dt•f-dt•t•(k•e+f)‖ ≤ ‖e‖-dt*min (k*‖e‖) (c-‖f‖) := by
  have hshare : 0≤1-dt*t*k := by
    have hle : k*dt*t≤1 := mul_le_one₀ hgain ht₀ ht₁
    linarith
  have hrest : 0≤dt*(1-t) := mul_nonneg hdt (sub_nonneg.mpr ht₁)
  have hway : ‖e+dt•f-dt•t•(k•e+f)‖ ≤ (1-dt*t*k)*‖e‖+dt*(1-t)*‖f‖ := by
    rw [way_eq]
    refine (norm_add_le _ _).trans_eq ?_
    rw [norm_smul,norm_smul,Real.norm_of_nonneg hshare,Real.norm_of_nonneg hrest]
  rcases hcut with rfl|hcut
  · have hmin : dt*min (k*‖e‖) (c-‖f‖) ≤ dt*(k*‖e‖) :=
      mul_le_mul_of_nonneg_left (min_le_left _ _) hdt
    linarith
  · have hmin : dt*min (k*‖e‖) (c-‖f‖) ≤ dt*(c-‖f‖) :=
      mul_le_mul_of_nonneg_left (min_le_right _ _) hdt
    have hwanted : ‖k•e+f‖ ≤ k*‖e‖+‖f‖ := by
      refine (norm_add_le _ _).trans_eq ?_
      rw [norm_smul,Real.norm_of_nonneg hk]
    have hspeed : dt*c ≤ dt*(t*(k*‖e‖+‖f‖)) := by
      rw [←hcut]
      exact mul_le_mul_of_nonneg_left (mul_le_mul_of_nonneg_left hwanted ht₀) hdt
    linarith

end

end Dankong.ClosedLoop

import Mathlib.Data.Nat.Basic

/-!
# Streaks

How often in a row a property has held most recently, as a counter finds out that
starts again from zero whenever the property fails.
-/

namespace Dankong.Streaks

variable {P : ℕ → Prop} {n k : ℕ}

/-- Of the first `n` members, the last `k` and no more have the property. -/
structure Streak (P : ℕ → Prop) (n k : ℕ) : Prop where
  /-- There are as many. -/
  le : k≤n
  /-- They have it. -/
  holds : ∀ i,n≤ i+k → i<n → P i
  /-- The one before them does not. -/
  broken : ∀ i,i+k+1=n → ¬P i

/-- Unless the last member has the property there is no streak. -/
theorem streak_zero (h : ∀ i,i+1=n → ¬P i) : Streak P n 0 where
  le := Nat.zero_le n
  holds := by
    intro i hfrom hto
    omega
  broken := h

/-- Another member with the property. -/
theorem Streak.succ (h : Streak P n k) (hn : P n) : Streak P (n+1) (k+1) where
  le := Nat.succ_le_succ h.le
  holds := by
    intro i hfrom hto
    by_cases hlast : i=n
    · rwa [hlast]
    · exact h.holds i (by omega) (by omega)
  broken := by
    intro i hi
    exact h.broken i (by omega)

/-- A member without the property ends the streak. -/
theorem streak_break (hn : ¬P n) : Streak P (n+1) 0 := by
  apply streak_zero
  intro i hi
  have hlast : i=n := by omega
  rwa [hlast]

/-- A streak holds every shorter one, and no longer one. -/
theorem Streak.le_iff (h : Streak P n k) (j : ℕ) : j≤k ↔ j≤n ∧ ∀ i,n≤ i+j → i<n → P i := by
  constructor
  · intro hj
    exact ⟨Nat.le_trans hj h.le,fun i hfrom hto => h.holds i (by omega) hto⟩
  · intro hall
    by_contra hshort
    have hlast : n-(k+1)+k+1=n := by omega
    exact h.broken (n-(k+1)) hlast (hall.2 _ (by omega) (by omega))

/-- The next member is the third in a row. -/
theorem Streak.third_iff (h : Streak P n k) :
    P n ∧ 2≤k ↔ ∃ i,n=i+2 ∧ P i ∧ P (i+1) ∧ P (i+2) := by
  constructor
  · intro hthird
    obtain ⟨htwo,hall⟩ := (h.le_iff 2).mp hthird.2
    have hlast : n-2+2=n := by omega
    have hmember : P (n-2+2) := by
      rw [hlast]
      exact hthird.1
    exact ⟨n-2,hlast.symm,hall _ (by omega) (by omega),hall _ (by omega) (by omega),hmember⟩
  · intro hthird
    obtain ⟨i,hn,hfirst,hsecond,hlast⟩ := hthird
    have htwo : ∀ j,n≤j+2 → j<n → P j := by
      intro j hfrom hto
      have hcase : j=i ∨ j=i+1 := by omega
      rcases hcase with hj|hj
      · rwa [hj]
      · rwa [hj]
    have hn' : P n := by rwa [hn]
    exact ⟨hn',(h.le_iff 2).mpr ⟨by omega,htwo⟩⟩

end Dankong.Streaks

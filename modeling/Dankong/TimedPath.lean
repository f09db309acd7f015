import Mathlib.Topology.MetricSpace.Pseudo.Defs
import Mathlib.Data.List.Chain
import Mathlib.Tactic.Ring
import Mathlib.Tactic.Linarith

/-!
# Logs of timed points

Points are logged with their times, latest first. If every point can be reached from
the one before it at a limited speed and up to some slack, so can any two points of
the log, with the slack of the steps between them.
-/

namespace Dankong.TimedPath

section

variable {Point E : Type*} [PseudoMetricSpace E] (pos : Point → E) (time : Point → ℝ)

/-- The later point is within reach of the earlier one. -/
def WithinReach (speed slack : ℝ) (later earlier : Point) : Prop :=
  dist (pos later) (pos earlier) ≤ speed*(time later-time earlier)+slack

variable {pos time} {speed slack : ℝ} {later earlier : Point} {between : List Point}

/-- Two points with reachable steps between them. -/
theorem dist_le_of_isChain
    (h : (later::between++[earlier]).IsChain (WithinReach pos time speed slack)) :
    dist (pos later) (pos earlier) ≤
      speed*(time later-time earlier)+slack*(between.length+1) := by
  induction between generalizing later with
  | nil =>
    have hstep : WithinReach pos time speed slack later earlier :=
      (List.isChain_cons_cons.mp h).1
    simpa [WithinReach] using hstep
  | cons next between ih =>
    obtain ⟨hstep,hrest⟩ := List.isChain_cons_cons.mp h
    calc dist (pos later) (pos earlier)
        ≤dist (pos later) (pos next)+dist (pos next) (pos earlier) := dist_triangle _ _ _
      _≤(speed*(time later-time next)+slack)+
          (speed*(time next-time earlier)+slack*(between.length+1)) := add_le_add hstep (ih hrest)
      _=speed*(time later-time earlier)+slack*((next::between).length+1) := by
        rw [List.length_cons]
        push_cast
        ring

/-- So are any two points of a log. -/
theorem dist_le_of_log {newer older : List Point}
    (h : (newer++later::between++earlier::older).IsChain (WithinReach pos time speed slack)) :
    dist (pos later) (pos earlier) ≤
      speed*(time later-time earlier)+slack*(between.length+1) := by
  have hbetween : (later::between++[earlier]) <:+: newer++later::between++earlier::older :=
    ⟨newer,older,by simp⟩
  exact dist_le_of_isChain ( List.IsChain.infix h hbetween)

end

section

variable {Point : Type*} (r : Point → Point → Prop)

/-- The newest entries of a log, so many of them, follow each other under a relation. -/
def Recent (n : ℕ) (log : List Point) : Prop := n ≤ log.length ∧ (log.take n).IsChain r

variable {r} {n : ℕ} {log : List Point}

/-- The newest entry alone. -/
theorem recent_one (x : Point) (log : List Point) : Recent r 1 (x::log) :=
  ⟨Nat.succ_le_succ (Nat.zero_le _),List.isChain_singleton x⟩

/-- One more entry that follows the newest. -/
theorem recent_cons {x y : Point} (h : Recent r n (y::log)) (hxy : r x y) :
    Recent r (n+1) (x::y::log) := by
  cases n with
  | zero => exact recent_one x (y::log)
  | succ n => exact ⟨Nat.succ_le_succ h.1,List.isChain_cons_cons.mpr ⟨hxy,h.2⟩⟩

/-- Fewer of the newest entries. -/
theorem Recent.mono {m : ℕ} (h : Recent r n log) (hmn : m ≤ n) : Recent r m log := by
  refine ⟨hmn.trans h.1,?_⟩
  have htake : log.take m=(log.take n).take m := by rw [List.take_take,min_eq_left hmn]
  rw [htake]
  exact h.2.take m

end

end Dankong.TimedPath

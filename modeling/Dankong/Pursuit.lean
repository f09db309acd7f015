import Mathlib.Combinatorics.Pigeonhole

/-!
# Following a partial function

`follow next n a` is the element met after `n` steps from `a`, if there are that many.
Where only finitely many elements have a next one, the way ends exactly if it meets no
element twice, and then within one step for each of them and one more.
-/

namespace Dankong.Pursuit

variable {α : Type*}

/-- The element met after a number of steps. -/
def follow (next : α → Option α) : ℕ → α → Option α
  | 0,a => some a
  | n+1,a => (next a).bind (follow next n)

/-- The way from an element ends. -/
def Ends (next : α → Option α) (a : α) : Prop := ∃ n,follow next n a=none

/-- The way from an element meets no element twice. -/
def MeetsOnce (next : α → Option α) (a : α) : Prop :=
  ∀ i j b,i<j → follow next i a=some b → follow next j a≠some b

variable {next : α → Option α} {a b : α}

/-- A way splits at every step. -/
theorem follow_add (m n : ℕ) (a : α) :
    follow next (m+n) a=(follow next m a).bind (follow next n) := by
  induction m generalizing a with
  | zero =>
    rw [Nat.zero_add]
    rfl
  | succ m ih =>
    rw [Nat.succ_add]
    cases hnext : next a with
    | none => simp only [follow,hnext,Option.bind_none]
    | some b => simp only [follow,hnext,Option.bind_some,ih b]

/-- A way that has ended stays ended. -/
theorem follow_eq_none_of_le {m n : ℕ} (h : follow next m a=none) (hle : m≤n) :
    follow next n a=none := by
  obtain ⟨k,rfl⟩ := Nat.exists_eq_add_of_le hle
  rw [follow_add,h]
  rfl

/-- A way that comes back goes round forever. -/
theorem follow_period {d : ℕ} (h : follow next d b=some b) (k : ℕ) :
    follow next (k*d) b=some b := by
  induction k with
  | zero =>
    rw [Nat.zero_mul]
    rfl
  | succ k ih => rw [Nat.succ_mul,follow_add,ih,Option.bind_some,h]

/-- A way that ends meets no element twice. -/
theorem meetsOnce_of_ends (h : Ends next a) : MeetsOnce next a := by
  obtain ⟨n,hend⟩ := h
  intro i j b hlt hi hj
  obtain ⟨d,rfl⟩ := Nat.exists_eq_add_of_lt hlt
  have hround : follow next (d+1) b=some b := by
    rw [Nat.add_assoc,follow_add,hi] at hj
    exact hj
  have hlong : n≤ i+n*(d+1) :=
    (Nat.le_mul_of_pos_right n (Nat.succ_pos d)).trans (Nat.le_add_left _ _)
  have hstill := follow_eq_none_of_le hend hlong
  rw [follow_add,hi,Option.bind_some,follow_period hround] at hstill
  cases hstill

/-- Before its last element a way only meets elements that have a next one. -/
theorem exists_of_follow_succ {n : ℕ} (h : (follow next (n+1) a).isSome=true) :
    ∃ b,follow next n a=some b ∧ (next b).isSome=true := by
  rw [follow_add] at h
  cases hlast : follow next n a with
  | none =>
    rw [hlast] at h
    cases h
  | some b =>
    refine ⟨b,rfl,?_⟩
    rw [hlast,Option.bind_some] at h
    cases hnext : next b with
    | none =>
      simp only [follow,hnext,Option.bind_none] at h
      cases h
    | some c => rfl

/-- A way that meets no element twice ends within one step for each element that has a
next one, and one more. -/
theorem follow_eq_none_of_meetsOnce (domain : Finset α)
    (hdomain : ∀ b,(next b).isSome=true → b∈domain) (h : MeetsOnce next a) :
    follow next (domain.card+1) a=none := by
  by_contra hgoes
  have hmet : ∀ i∈Finset.range (domain.card+1),
      ∃ b,follow next i a=some b ∧ (next b).isSome=true := by
    intro i hi
    refine exists_of_follow_succ (Option.isSome_iff_ne_none.mpr fun hend => hgoes ?_)
    exact follow_eq_none_of_le hend (Finset.mem_range.mp hi)
  have hsome : Nonempty α := ⟨a⟩
  choose! met hfollow hnext using hmet
  have hinto : ∀ i∈Finset.range (domain.card+1),met i∈domain := fun i hi =>
    hdomain _ (hnext i hi)
  have hmore : domain.card<(Finset.range (domain.card+1)).card := by
    rw [Finset.card_range]
    exact Nat.lt_succ_self _
  obtain ⟨i,hi,j,hj,hne,hsame⟩ := Finset.exists_ne_map_eq_of_card_lt_of_maps_to hmore hinto
  rcases hne.lt_or_gt with hlt|hgt
  · exact h i j (met i) hlt (hfollow i hi) (hsame ▸ hfollow j hj)
  · exact h j i (met j) hgt (hfollow j hj) (hsame ▸ hfollow i hi)

/-- Where finitely many elements have a next one, a way ends exactly if it meets no
element twice. -/
theorem ends_iff_meetsOnce (domain : Finset α)
    (hdomain : ∀ b,(next b).isSome=true → b∈domain) : Ends next a ↔ MeetsOnce next a :=
  ⟨meetsOnce_of_ends,fun h => ⟨_,follow_eq_none_of_meetsOnce domain hdomain h⟩⟩

end Dankong.Pursuit

import Mathlib.Data.List.Infix
import Mathlib.Tactic.Common

/-!
# Searching a text

`find` is the position at which a text first contains another one. Nothing is found
before a position at which the first character sought occurs.
-/

namespace Dankong.TextSearch

variable {α : Type*} [DecidableEq α]

/-- The position of the first occurrence. -/
def find (needle : List α) : List α → Option ℕ
  | [] => if needle=[] then some 0 else none
  | c::rest => if needle<+:c::rest then some 0 else (find needle rest).map (·+1)

variable {a : α} {needle text before : List α}

/-- Nothing is found exactly in the texts that do not contain what is sought. -/
theorem find_eq_none_iff : find needle text=none ↔ ¬needle<:+:text := by
  induction text with
  | nil =>
    rw [List.infix_nil]
    unfold find
    split
    · exact iff_of_false (fun h => (nomatch h)) (not_not.mpr ‹_›)
    · exact iff_of_true rfl ‹_›
  | cons c rest ih =>
    rw [List.infix_cons_iff,not_or,←ih,find]
    by_cases hhere : needle<+:c::rest
    · rw [if_pos hhere]
      exact iff_of_false (fun h => (nomatch h)) fun h => h.1 hhere
    · rw [if_neg hhere,Option.map_eq_none_iff]
      exact (and_iff_right hhere).symm

/-- The search passes over a text without the first character sought. -/
theorem find_append (h : a∉before) :
    find (a::needle) (before++text)=(find (a::needle) text).map (before.length+·) := by
  induction before with
  | nil =>
    rw [List.nil_append]
    cases find (a::needle) text with
    | none => rfl
    | some pos => rw [Option.map_some,List.length_nil,Nat.zero_add]
  | cons c rest ih =>
    rw [List.mem_cons,not_or] at h
    have hhere : ¬a::needle<+:c::(rest++text) := fun hp => h.1 (List.cons_prefix_cons.mp hp).1
    rw [List.cons_append,find,if_neg hhere,ih h.2,Option.map_map]
    congr 1
    funext pos
    rw [Function.comp,List.length_cons]
    omega

/-- What is sought is found at once where the text begins with it. -/
theorem find_at_start (needle rest : List α) : find needle (needle++rest)=some 0 := by
  cases needle with
  | nil => cases rest <;> rfl
  | cons c needle =>
    rw [List.cons_append,find,if_pos]
    exact ⟨rest,rfl⟩

/-- The first occurrence is behind a text without the first character sought. -/
theorem find_first (h : a∉before) (rest : List α) :
    find (a::needle) (before++(a::needle++rest))=some before.length := by
  rw [find_append h,find_at_start]
  rfl

/-- A character that does not occur is not found. -/
theorem find_of_notMem (h : a∉text) : find [a] text=none := by
  have hpast : find [a] (text++[])=none := find_append h
  rwa [List.append_nil] at hpast

end Dankong.TextSearch

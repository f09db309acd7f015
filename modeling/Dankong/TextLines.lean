import Mathlib.Data.List.Infix

/-!
# Lines of a stream

A stream of symbols in which one symbol ends a line. Whoever reads it sees the complete
lines that have arrived so far and the beginning of one more.
-/

namespace Dankong.TextLines

variable {α : Type*}

/-- Lines one after the other, each with its end. -/
def terminated (stop : α) (lines : List (List α)) : List α := lines.flatMap (·++[stop])

theorem terminated_append (stop : α) (first second : List (List α)) :
    terminated stop (first++second)=terminated stop first++terminated stop second :=
  List.flatMap_append

variable [DecidableEq α]

/-- The complete lines of a stream, and what has arrived of the next one. -/
def readLines (stop : α) : List α → List (List α)×List α
  | [] => ([],[])
  | c::rest =>
    if c=stop then ([]::(readLines stop rest).1,(readLines stop rest).2)
    else match (readLines stop rest).1 with
      | [] => ([],c::(readLines stop rest).2)
      | line::lines => ((c::line)::lines,(readLines stop rest).2)

variable {stop : α}

/-- The first line is read up to its end. -/
theorem readLines_append {line : List α} (h : stop∉line) (rest : List α) :
    readLines stop (line++stop::rest)=(line::(readLines stop rest).1,(readLines stop rest).2) := by
  induction line with
  | nil => rw [List.nil_append,readLines,if_pos rfl]
  | cons c line ih =>
    obtain ⟨hc,hline⟩ := not_or.mp (mt List.mem_cons.mpr h)
    rw [List.cons_append,readLines,if_neg (Ne.symm hc),ih hline]

/-- Lines are read as they were written. -/
theorem readLines_terminated {lines : List (List α)} (h : ∀ line∈lines,stop∉line) (rest : List α) :
    readLines stop (terminated stop lines++rest)=
      (lines++(readLines stop rest).1,(readLines stop rest).2) := by
  induction lines with
  | nil => rfl
  | cons line lines ih =>
    have hrest := ih fun other hother => h other (List.mem_cons_of_mem line hother)
    have hsplit : terminated stop (line::lines)++rest=
        line++stop::(terminated stop lines++rest) := by
      simp only [terminated,List.flatMap_cons,List.append_assoc,List.cons_append,
        List.nil_append]
    rw [hsplit,readLines_append (h line List.mem_cons_self),hrest]
    rfl

/-- A stream that has arrived in part shows the first lines. -/
theorem readLines_prefix {arrived whole : List α} (h : arrived<+:whole) :
    (readLines stop arrived).1<+:(readLines stop whole).1 := by
  induction arrived generalizing whole with
  | nil => exact List.nil_prefix
  | cons c rest ih =>
    obtain ⟨more,rfl⟩ := h
    have hrest := ih (List.prefix_append rest more)
    rw [List.cons_append,readLines,readLines]
    split
    · exact (List.prefix_cons_inj []).mpr hrest
    · cases hlines : (readLines stop rest).1 with
      | nil => exact List.nil_prefix
      | cons line lines =>
        obtain ⟨others,hothers⟩ := hrest
        rw [hlines,List.cons_append] at hothers
        rw [← hothers]
        exact (List.prefix_cons_inj (c::line)).mpr (List.prefix_append lines others)

end Dankong.TextLines

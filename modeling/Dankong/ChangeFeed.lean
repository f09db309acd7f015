import Mathlib.Data.List.Infix
import Mathlib.Tactic.Common

/-!
# A value that announces its changes

One side reports a value again and again. A report that differs from the value stored is
first announced as an event, with the old value and the new one, and then stored. The
other side handles the events in their order, at its own time. Whatever happens in
between, the events are exactly the changes between successive reports.
-/

namespace Dankong.ChangeFeed

/-- The two sides, with all reports and all events so far, latest first. -/
structure Feed (α : Type*) where
  /-- The value stored. -/
  value : α
  /-- The value announced and not stored yet. -/
  storing : Option α := none
  /-- Events that wait to be handled, oldest first. -/
  events : List (α×α) := []
  /-- All reports. -/
  reports : List α := []
  /-- All events announced. -/
  announced : List (α×α) := []

variable {α : Type*} [DecidableEq α]

/-- The changes between successive reports, from a value on; all latest first. -/
def changes (start : α) : List α → List (α×α)
  | [] => []
  | a::earlier =>
    if earlier.headD start=a then changes start earlier
    else (earlier.headD start,a)::changes start earlier

namespace Feed

/-- A report; while an announced value is not stored the next one has to wait. -/
def report (a : α) (f : Feed α) : Feed α :=
  if f.storing.isSome=true then f
  else if f.value=a then { f with reports := a::f.reports }
  else { f with
    storing := some a
    events := f.events++[(f.value,a)]
    reports := a::f.reports
    announced := (f.value,a)::f.announced }

omit [DecidableEq α] in
/-- The value last reported. -/
def latest (f : Feed α) : α := f.storing.getD f.value

/-- The announced value is stored. -/
def store (f : Feed α) : Feed α := { f with value := f.latest, storing := none }

/-- The oldest event is taken out to be handled. -/
def handled (f : Feed α) : Feed α := { f with events := f.events.tail }

/-- The feed tells the changes from a value on. -/
structure Follows (start : α) (f : Feed α) : Prop where
  /-- The value is the one last reported. -/
  latest : f.latest=f.reports.headD start
  /-- Every change is announced, and nothing else. -/
  announced : f.announced=changes start f.reports
  /-- The events that wait are the latest ones. -/
  waiting : f.events<:+f.announced.reverse
  /-- The value stored has been reported, unless it is the first one. -/
  stored : f.value=start ∨ f.value∈f.reports
  /-- An announced value is a new one. -/
  fresh : ∀ a∈f.storing,f.value≠a

end Feed

variable {start : α} {f : Feed α}

/-- The latest change leads to the latest report. -/
theorem head_changes {reports : List α} {e : α×α} (h : e∈(changes start reports).head?) :
    e.2=reports.headD start := by
  induction reports with
  | nil => cases h
  | cons a earlier ih =>
    rw [changes] at h
    split at h
    · rename_i hsame
      rw [ih h,hsame]
      rfl
    · rw [List.head?_cons,Option.mem_some_iff] at h
      rw [←h]
      rfl

/-- Every change leads to a report. -/
theorem mem_of_mem_changes {reports : List α} {e : α×α} (h : e∈changes start reports) :
    e.2∈reports := by
  induction reports with
  | nil => cases h
  | cons a earlier ih =>
    rw [changes] at h
    split at h
    · exact List.mem_cons_of_mem a (ih h)
    · rcases List.mem_cons.mp h with rfl|hearlier
      · exact List.mem_cons_self
      · exact List.mem_cons_of_mem a (ih hearlier)

/-- Every event leads to a report. -/
theorem Feed.Follows.reported (h : f.Follows start) {e : α×α} (he : e∈f.events) :
    e.2∈f.reports := by
  have hannounced := h.waiting.subset he
  rw [List.mem_reverse,h.announced] at hannounced
  exact mem_of_mem_changes hannounced

/-- The last event that waits leads to the latest value. -/
theorem Feed.Follows.last (h : f.Follows start) {e : α×α} (he : e∈f.events.getLast?) :
    e.2=f.latest := by
  rw [h.latest]
  refine head_changes ?_
  obtain ⟨older,holder⟩ := h.waiting
  rw [←h.announced,←List.getLast?_reverse,←holder,List.getLast?_append,Option.mem_def.mp he]
  rfl

/-- Before the first report. -/
theorem follows_initial : Feed.Follows start { value := start } where
  latest := rfl
  announced := rfl
  waiting := List.suffix_rfl
  stored := Or.inl rfl
  fresh := fun _ h => (nomatch h)

/-- A report keeps the feed. -/
theorem Feed.Follows.report (h : f.Follows start) (a : α) : (f.report a).Follows start := by
  rw [Feed.report]
  split
  · exact h
  · rename_i hidle
    have hnone : f.storing=none := Option.not_isSome_iff_eq_none.mp hidle
    have hlatest : f.reports.headD start=f.value := by
      rw [←h.latest,Feed.latest,hnone]
      rfl
    have hstored : f.value=start ∨ f.value∈a::f.reports :=
      h.stored.imp_right (List.mem_cons_of_mem a)
    split
    · rename_i hsame
      refine ⟨?_,?_,h.waiting,hstored,h.fresh⟩
      · rw [List.headD_cons,Feed.latest,hnone]
        exact hsame
      · dsimp only
        rw [changes,hlatest,if_pos hsame]
        exact h.announced
    · rename_i hnew
      refine ⟨rfl,?_,?_,hstored,fun b hb => ?_⟩
      · dsimp only
        rw [changes,hlatest,if_neg hnew,h.announced]
      · obtain ⟨older,holder⟩ := h.waiting
        dsimp only
        rw [List.reverse_cons,←holder,List.append_assoc]
        exact List.suffix_append _ _
      · cases hb
        exact hnew

/-- The value last reported has been reported, unless it is the first one. -/
theorem Feed.Follows.latest_mem (h : f.Follows start) : f.latest=start ∨ f.latest∈f.reports := by
  rw [h.latest]
  cases f.reports with
  | nil => exact Or.inl rfl
  | cons a earlier => exact Or.inr List.mem_cons_self

/-- Storing keeps the feed. -/
theorem Feed.Follows.store (h : f.Follows start) : f.store.Follows start :=
  ⟨h.latest,h.announced,h.waiting,h.latest_mem,fun _ hb => (nomatch hb)⟩

/-- Handling keeps the feed. -/
theorem Feed.Follows.handled (h : f.Follows start) : f.handled.Follows start :=
  ⟨h.latest,h.announced,(List.tail_suffix f.events).trans h.waiting,h.stored,h.fresh⟩

end Dankong.ChangeFeed

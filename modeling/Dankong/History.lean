import Dankong.Runs

/-!
# Recorded runs and past-time properties

Each input of a run may leave one event behind. Events are kept latest first.
`Since` says that a marked event happened and only kept events followed it;
`Throughout` says that every event fits what happened before it. The run rule
derives the second from an invariant that relates state and history.
-/

namespace Dankong.History

open Runs

variable {State Input Event : Type*}

/-- A marked event happened, and only kept events followed it. -/
def Since (marked kept : Event → Prop) (history : List Event) : Prop :=
  ∃ later e earlier,history=later++e::earlier ∧ marked e ∧ ∀ x∈later,kept x

/-- Only kept events happened since the last marked one, or since the start. -/
def WeakSince (marked kept : Event → Prop) (history : List Event) : Prop :=
  Since marked kept history ∨ ∀ x∈history,kept x

/-- Every event fits the events before it. -/
def Throughout (fits : Event → List Event → Prop) (history : List Event) : Prop :=
  ∀ later e earlier,history=later++e::earlier → fits e earlier

variable {marked kept : Event → Prop} {fits : Event → List Event → Prop}

/-- The latest event is marked, or it is kept and the mark is older. -/
theorem since_cons (x : Event) (history : List Event) :
    Since marked kept (x::history) ↔ marked x ∨ kept x ∧ Since marked kept history := by
  constructor
  · rintro ⟨later,e,earlier,h,hm,hk⟩
    cases later with
    | nil =>
      obtain ⟨rfl,rfl⟩ := List.cons.inj h
      exact Or.inl hm
    | cons y later =>
      obtain ⟨rfl,rfl⟩ := List.cons.inj h
      exact Or.inr ⟨hk x List.mem_cons_self,
        later,e,earlier,rfl,hm,fun z hz => hk z (List.mem_cons_of_mem x hz)⟩
  · rintro (hm|⟨hx,later,e,earlier,rfl,hm,hk⟩)
    · exact ⟨[],x,history,rfl,hm,fun _ h => (nomatch h)⟩
    · refine ⟨x::later,e,earlier,rfl,hm,fun z hz => ?_⟩
      rcases List.mem_cons.mp hz with rfl|hz
      · exact hx
      · exact hk z hz

/-- The latest event is marked, or it is kept and so are those before it. -/
theorem weakSince_cons (x : Event) (history : List Event) :
    WeakSince marked kept (x::history) ↔ marked x ∨ kept x ∧ WeakSince marked kept history := by
  dsimp only [WeakSince]
  rw [since_cons,List.forall_mem_cons]
  tauto

/-- Weaker marks and kept events happened since as well. -/
theorem since_mono {marked' kept' : Event → Prop} {history : List Event}
    (hmarked : ∀ e,marked e → marked' e) (hkept : ∀ e,kept e → kept' e)
    (h : Since marked kept history) : Since marked' kept' history := by
  obtain ⟨later,e,earlier,heq,hm,hk⟩ := h
  exact ⟨later,e,earlier,heq,hmarked e hm,fun x hx => hkept x (hk x hx)⟩

/-- Nothing happened before the start. -/
theorem not_since_nil : ¬Since marked kept [] := by
  rintro ⟨later,e,earlier,h,_⟩
  exact absurd h (by simp)

/-- The empty history fits. -/
theorem throughout_nil : Throughout fits [] := by
  intro later e earlier h
  exact absurd h (by simp)

/-- A longer history fits if its latest event and the rest fit. -/
theorem throughout_cons (x : Event) (history : List Event) :
    Throughout fits (x::history) ↔ fits x history ∧ Throughout fits history := by
  constructor
  · intro h
    exact ⟨h [] x history rfl,fun later e earlier he => h (x::later) e earlier (by rw [he]; rfl)⟩
  · rintro ⟨hx,h⟩ later e earlier he
    cases later with
    | nil =>
      obtain ⟨rfl,rfl⟩ := List.cons.inj he
      exact hx
    | cons y later =>
      obtain ⟨rfl,rfl⟩ := List.cons.inj he
      exact h later e earlier rfl

/-- One step of a recorded run. -/
def recordStep (step : State → Input → State) (event : State → Input → Option Event)
    (r : State×List Event) (i : Input) : State×List Event :=
  (step r.1 i,(event r.1 i).toList++r.2)

variable {step : State → Input → State} {event : State → Input → Option Event}
  {ok : State → Input → Prop}

/-- Recording does not change the run. -/
theorem recorded_state (inputs : List Input) (r : State×List Event) :
    (runFrom (recordStep step event) r inputs).1=runFrom step r.1 inputs := by
  induction inputs generalizing r with
  | nil => rfl
  | cons i rest ih => exact ih (recordStep step event r i)

/-- All recorded events have a property exactly if every input that leaves an
event behind leaves one with it. -/
theorem recorded_forall_iff {fine : Event → Prop} (inputs : List Input) (s : State)
    (history : List Event) :
    (∀ e∈(runFrom (recordStep step event) (s,history) inputs).2,fine e) ↔
      (∀ e∈history,fine e) ∧ Guarded step (fun s i => ∀ e∈event s i,fine e) s inputs := by
  induction inputs generalizing s history with
  | nil => simp only [runFrom_nil,guarded_nil,and_true]
  | cons i rest ih =>
    rw [runFrom_cons,guarded_cons,recordStep,ih,←and_assoc,and_comm (a := ∀ e∈history,fine e)]
    refine and_congr_left fun _ => ?_
    simp only [List.mem_append,Option.mem_toList,or_imp,forall_and,Option.mem_def]

/-- An invariant of state and history that every input keeps holds of every recorded run. -/
theorem recorded_invariant (inv : State → List Event → Prop)
    (hstep : ∀ s h i,inv s h → inv (step s i) ((event s i).toList++h))
    (inputs : List Input) {s : State} {history : List Event} (hs : inv s history) :
    inv (runFrom (recordStep step event) (s,history) inputs).1
      (runFrom (recordStep step event) (s,history) inputs).2 :=
  run_invariant (P := fun r : State×List Event => inv r.1 r.2)
    (fun r i h => hstep r.1 r.2 i h) inputs hs

variable (ok) in
/-- The run rule: an invariant of state and history that every guarded input
keeps, and under which every recorded event fits, gives a fitting history. -/
theorem recorded_throughout (inv : State → List Event → Prop)
    (hstep : ∀ s h i,inv s h → ok s i → inv (step s i) ((event s i).toList++h))
    (hevent : ∀ s h i e,inv s h → ok s i → event s i=some e → fits e h)
    (inputs : List Input) {s : State} (hs : inv s [])
    (hg : Guarded (recordStep step event) (fun r i => ok r.1 i) (s,[]) inputs) :
    Throughout fits (runFrom (recordStep step event) (s,[]) inputs).2 := by
  have hrun := guarded_invariant
    (P:=fun r => inv r.1 r.2 ∧ Throughout fits r.2) ?_ inputs ⟨hs,throughout_nil⟩ hg
  · exact hrun.2
  · rintro ⟨s,h⟩ i ⟨hi,ht⟩ hok
    refine ⟨hstep s h i hi hok,?_⟩
    dsimp only [recordStep]
    cases he : event s i with
    | none => exact ht
    | some e => exact (throughout_cons e h).mpr ⟨hevent s h i e hi hok he,ht⟩

end Dankong.History

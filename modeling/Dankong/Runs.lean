import Mathlib.Data.List.Basic

/-!
# Runs of input-driven systems

A system here is a total step function: every input has one effect on every
state, and an input that is not enabled leaves the state as it is. Runs are
finite input lists. A guard restricts the state in which an input may arrive;
the invariant rule is stated once for guarded runs.
-/

namespace Dankong.Runs

variable {State Input : Type*}

/-- The state after a list of inputs, oldest input first. -/
def runFrom (step : State → Input → State) (s : State) (inputs : List Input) : State :=
  inputs.foldl step s

/-- Every input of the run meets the guard in the state it arrives in. -/
def Guarded (step : State → Input → State) (ok : State → Input → Prop) :
    State → List Input → Prop
  | _,[] => True
  | s,i::rest => ok s i ∧ Guarded step ok (step s i) rest

variable {step : State → Input → State} {ok : State → Input → Prop}

@[simp] theorem runFrom_nil (s : State) : runFrom step s []=s := rfl

@[simp] theorem runFrom_cons (s : State) (i : Input) (rest : List Input) :
    runFrom step s (i::rest)=runFrom step (step s i) rest := rfl

/-- A run splits at every point. -/
theorem runFrom_append (s : State) (first second : List Input) :
    runFrom step s (first++second)=runFrom step (runFrom step s first) second :=
  List.foldl_append

@[simp] theorem guarded_nil (s : State) : Guarded step ok s [] := trivial

@[simp] theorem guarded_cons (s : State) (i : Input) (rest : List Input) :
    Guarded step ok s (i::rest) ↔ ok s i ∧ Guarded step ok (step s i) rest := Iff.rfl

/-- The guard of a split run is the guard of both parts. -/
theorem guarded_append (s : State) (first second : List Input) :
    Guarded step ok s (first++second) ↔
      Guarded step ok s first ∧ Guarded step ok (runFrom step s first) second := by
  induction first generalizing s with
  | nil => simp only [List.nil_append,guarded_nil,runFrom_nil,true_and]
  | cons i rest ih => simp only [List.cons_append,guarded_cons,runFrom_cons,ih,and_assoc]

/-- Inputs that meet the guard in every state restrict no run. -/
theorem guarded_of_mem (inputs : List Input) (hok : ∀ i∈inputs,∀ s,ok s i) (s : State) :
    Guarded step ok s inputs := by
  induction inputs generalizing s with
  | nil => exact trivial
  | cons i rest ih =>
    exact ⟨hok i List.mem_cons_self s,
      ih (fun j hj => hok j (List.mem_cons_of_mem i hj)) (step s i)⟩

/-- A guard that asks nothing restricts no run. -/
theorem guarded_of_forall (hok : ∀ s i,ok s i) (s : State) (inputs : List Input) :
    Guarded step ok s inputs :=
  guarded_of_mem inputs (fun i _ s => hok s i) s

/-- A stronger guard restricts runs at least as much. -/
theorem guarded_mono {weaker : State → Input → Prop} (h : ∀ s i,ok s i → weaker s i)
    (inputs : List Input) {s : State} (hg : Guarded step ok s inputs) :
    Guarded step weaker s inputs := by
  induction inputs generalizing s with
  | nil => exact trivial
  | cons i rest ih => exact ⟨h s i hg.1,ih hg.2⟩

/-- Guards that agree in every state restrict the same runs. -/
theorem guarded_congr {other : State → Input → Prop} (h : ∀ s i,ok s i ↔ other s i)
    (s : State) (inputs : List Input) :
    Guarded step ok s inputs ↔ Guarded step other s inputs :=
  ⟨guarded_mono (fun s i => (h s i).mp) inputs,guarded_mono (fun s i => (h s i).mpr) inputs⟩

/-- A guard follows from another one wherever an invariant of the other holds. -/
theorem guarded_of_invariant {other : State → Input → Prop} {P : State → Prop}
    (hstep : ∀ s i,P s → ok s i → P (step s i)) (hother : ∀ s i,P s → ok s i → other s i)
    (inputs : List Input) {s : State} (hs : P s) (hg : Guarded step ok s inputs) :
    Guarded step other s inputs := by
  induction inputs generalizing s with
  | nil => exact trivial
  | cons i rest ih => exact ⟨hother s i hs hg.1,ih (hstep s i hs hg.1) hg.2⟩

/-- The invariant rule: what every guarded step keeps, a guarded run keeps. -/
theorem guarded_invariant {P : State → Prop}
    (hstep : ∀ s i,P s → ok s i → P (step s i))
    (inputs : List Input) {s : State} (hs : P s) (hg : Guarded step ok s inputs) :
    P (runFrom step s inputs) := by
  induction inputs generalizing s with
  | nil => exact hs
  | cons i rest ih => exact ih (hstep s i hs hg.1) hg.2

/-- The invariant rule for runs without a guard. -/
theorem run_invariant {P : State → Prop} (hstep : ∀ s i,P s → P (step s i))
    (inputs : List Input) {s : State} (hs : P s) : P (runFrom step s inputs) :=
  have hg : Guarded step (fun _ _ => True) s inputs :=
    guarded_of_forall (fun _ _ => trivial) s inputs
  guarded_invariant (fun s i h _ => hstep s i h) inputs hs hg

/-- Where every step keeps a property exactly if it meets the guard, all states of a
run have the property exactly if the run is guarded. -/
theorem forall_prefix_iff_guarded {P : State → Prop} (hstep : ∀ s i,P s → (P (step s i) ↔ ok s i))
    (inputs : List Input) {s : State} (hs : P s) :
    (∀ done,done<+:inputs → P (runFrom step s done)) ↔ Guarded step ok s inputs := by
  induction inputs generalizing s with
  | nil =>
    refine iff_of_true (fun done hdone => ?_) trivial
    rw [List.prefix_nil.mp hdone]
    exact hs
  | cons i rest ih =>
    rw [guarded_cons]
    constructor
    · intro hall
      have hnext : P (step s i) := hall [i] (List.prefix_cons_inj i |>.mpr List.nil_prefix)
      refine ⟨(hstep s i hs).mp hnext,(ih hnext).mp fun done hdone => ?_⟩
      exact hall (i::done) ((List.prefix_cons_inj i).mpr hdone)
    · rintro ⟨hok,hrest⟩ done hdone
      have hnext : P (step s i) := (hstep s i hs).mpr hok
      cases done with
      | nil => exact hs
      | cons j done =>
        obtain ⟨rfl,htail⟩ := List.cons_prefix_cons.mp hdone
        exact (ih hnext).mpr hrest done htail

/-- The same for a property that steps keep in this way wherever an invariant holds. -/
theorem forall_prefix_iff_guarded_of_invariant {I P : State → Prop}
    (hinv : ∀ s i,I s → I (step s i)) (hstep : ∀ s i,I s → P s → (P (step s i) ↔ ok s i))
    (inputs : List Input) {s : State} (hI : I s) (hs : P s) :
    (∀ done,done<+:inputs → P (runFrom step s done)) ↔ Guarded step ok s inputs := by
  have hboth : (∀ done,done<+:inputs → I (runFrom step s done) ∧ P (runFrom step s done)) ↔
      Guarded step ok s inputs := by
    refine forall_prefix_iff_guarded (P := fun t => I t ∧ P t) (fun t i h => ?_) inputs ⟨hI,hs⟩
    exact (and_iff_right (hinv t i h.1)).trans (hstep t i h.1 h.2)
  rw [← hboth]
  refine forall₂_congr fun done _ => ?_
  exact (and_iff_right (run_invariant hinv done hI)).symm

end Dankong.Runs
